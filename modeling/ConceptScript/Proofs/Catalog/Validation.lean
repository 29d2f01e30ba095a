import ConceptScript.Proofs.Catalog.Distinct
import ConceptScript.Proofs.Token.Tiling
import ConceptScript.Proofs.Token.Writing

/-!
Contract: which lists of types are catalogs, and what is reported of the others.

The check of a list and the scanner of scripts each have a rule of their own for names. They agree:
a keyword passes the check exactly where a scan of it finds one name and nothing else. So every
keyword of a catalog can be written, and no keyword that can be written is refused.

Owns what a catalog and its types need, said without the check, and which of several defects is
reported.

Does not own the texts of the reports, and reading lists of types from files.
-/

set_option autoImplicit false

namespace ConceptScript

/-! ## Keywords and names -/

/-- A scan of the text finds a name that is the whole text, and nothing else. -/
def Scan.IsOneName (text : String) : Prop :=
  ∃ token, ofChars text.toList = ⟨[token], none⟩ ∧ token.kind = .identifier ∧ token.value = text

theorem Lexeme.Spelled.allName
    {value spelling rest : List Char}
    (spelled : Spelled .identifier value spelling rest) :
    value ≠ [] ∧ ∀ c ∈ value, isNameChar c = true := by
  cases spelled with
  | name notEmpty allName ends => exact ⟨notEmpty, allName⟩

theorem Scan.isOneName_iff (text : String) :
    IsOneName text ↔ text ≠ "" ∧ ∀ c ∈ text.toList, Lexeme.isNameChar c = true := by
  have isEmpty : text ≠ "" ↔ text.toList ≠ [] := String.toList_eq_nil_iff.not.symm
  rw [isEmpty]
  constructor
  · rintro ⟨token, isScan, isName, isText⟩
    have tiles : Tiles 0 text.toList ⟨[token], none⟩ :=
      (tiles_iff_eq_ofCharsFrom 0 text.toList _).2 isScan.symm
    obtain ⟨front, spelling, rest, -, -, -, spelled, -⟩ :=
      tiles.spelled token List.mem_cons_self
    rw [isName, isText] at spelled
    exact spelled.allName
  · rintro ⟨notEmpty, allName⟩
    have spelled : Lexeme.Spelled .identifier text.toList text.toList [] :=
      .name notEmpty allName (by simp)
    have isScan := ofCharsFrom_of_spelled 0 spelled
    rw [List.append_nil, ofCharsFrom_nil] at isScan
    exact ⟨_, isScan, rfl, String.ofList_toList⟩

namespace Catalog

theorem isKeyword_iff_isOneName (keyword : String) :
    isKeyword keyword = true ↔ Scan.IsOneName keyword := by
  rw [Scan.isOneName_iff, isKeyword, Bool.and_eq_true, Bool.not_eq_true', List.all_eq_true]
  rw [← Bool.not_eq_true, String.isEmpty_iff]
  rfl

/-! ## What a catalog needs -/

/-- What a type needs among types of the given names. -/
structure TypeFits (names : List String) (type : ConceptType) : Prop where
  parentsKnown : ∀ parent ∈ type.parents, parent ∈ names
  keywordIsName : ∀ keyword ∈ type.keyword, Scan.IsOneName keyword
  membersDistinct : (type.members.map Member.name).Nodup

/-- What a list of types needs. A parent may come before or behind its children. -/
structure WellFormed (types : List ConceptType) : Prop where
  namesDistinct : (types.map ConceptType.name).Nodup
  allFit : ∀ type ∈ types, TypeFits (types.map ConceptType.name) type

/-! ## What is reported -/

/-- The first of several names that repeats one in front of it. -/
def IsFirstRepeat (names : List String) (name : String) : Prop :=
  ∃ front back, names = front ++ name :: back ∧ front.Nodup ∧ name ∈ front

/-- What is reported of a type: an unknown parent before an invalid keyword, and both before a
repeated member. -/
inductive ReportedOf (names : List String) (type : ConceptType) : Defect → Prop where
  | unknownParent {front back : List String} {parent : String}
      (isParents : type.parents = front ++ parent :: back)
      (frontKnown : ∀ other ∈ front, other ∈ names)
      (unknown : parent ∉ names) :
      ReportedOf names type (.unknownParent type.name parent)
  | invalidKeyword {keyword : String}
      (parentsKnown : ∀ parent ∈ type.parents, parent ∈ names)
      (hasKeyword : type.keyword = some keyword)
      (notName : ¬ Scan.IsOneName keyword) :
      ReportedOf names type (.invalidKeyword type.name keyword)
  | duplicateMember {member : String}
      (parentsKnown : ∀ parent ∈ type.parents, parent ∈ names)
      (keywordIsName : ∀ keyword ∈ type.keyword, Scan.IsOneName keyword)
      (isRepeat : IsFirstRepeat (type.members.map Member.name) member) :
      ReportedOf names type (.duplicateMember type.name member)

/-- What is reported of a list of types: a repeated name before all else, and otherwise what is
reported of the first type that does not fit. -/
inductive Reported (types : List ConceptType) : Defect → Prop where
  | duplicateType {name : String}
      (isRepeat : IsFirstRepeat (types.map ConceptType.name) name) :
      Reported types (.duplicateType name)
  | ofType {front back : List ConceptType} {type : ConceptType} {defect : Defect}
      (namesDistinct : (types.map ConceptType.name).Nodup)
      (isTypes : types = front ++ type :: back)
      (frontFits : ∀ other ∈ front, TypeFits (types.map ConceptType.name) other)
      (reported : ReportedOf (types.map ConceptType.name) type defect) :
      Reported types defect

/-! ## The check -/

theorem firstRepeat_eq_some_iff (seen names : List String) (name : String) :
    firstRepeat seen names = some name ↔
      ∃ front back, names = front ++ name :: back ∧ front.Nodup ∧
        (∀ other ∈ front, other ∉ seen) ∧ (name ∈ front ∨ name ∈ seen) := by
  induction names generalizing seen with
  | nil => simp [firstRepeat]
  | cons first later inductionHypothesis =>
    unfold firstRepeat
    split
    · next isSeen =>
      constructor
      · rintro ⟨⟩
        exact ⟨[], later, rfl, List.nodup_nil, List.forall_mem_nil _, .inr isSeen⟩
      · rintro ⟨front, back, isNames, -, fresh, -⟩
        cases front with
        | nil => exact congrArg some (List.cons.inj isNames).1
        | cons other front =>
          obtain ⟨rfl, -⟩ := List.cons.inj isNames
          exact absurd isSeen (fresh first List.mem_cons_self)
    · next notSeen =>
      rw [inductionHypothesis]
      constructor
      · rintro ⟨front, back, rfl, distinct, fresh, isRepeat⟩
        refine ⟨first :: front, back, rfl, ?_, ?_, ?_⟩
        · refine List.nodup_cons.2 ⟨fun isMember => ?_, distinct⟩
          exact fresh first isMember List.mem_cons_self
        · intro other isMember isSeen
          rcases List.mem_cons.1 isMember with rfl | isLater
          · exact notSeen isSeen
          · exact fresh other isLater (List.mem_cons_of_mem first isSeen)
        · rw [List.mem_cons] at isRepeat ⊢
          exact or_assoc.2 (or_left_comm.1 isRepeat)
      · rintro ⟨front, back, isNames, distinct, fresh, isRepeat⟩
        cases front with
        | nil =>
          obtain ⟨rfl, -⟩ := List.cons.inj isNames
          simp [notSeen] at isRepeat
        | cons other front =>
          obtain ⟨rfl, isLater⟩ := List.cons.inj isNames
          obtain ⟨notInFront, frontDistinct⟩ := List.nodup_cons.1 distinct
          refine ⟨front, back, isLater, frontDistinct, ?_, ?_⟩
          · intro other isMember isSeen
            rcases List.mem_cons.1 isSeen with rfl | isEarlier
            · exact notInFront isMember
            · exact fresh other (List.mem_cons_of_mem first isMember) isEarlier
          · rw [List.mem_cons] at isRepeat ⊢
            exact or_left_comm.1 (or_assoc.1 isRepeat)

theorem firstRepeat_eq_some_iff_isFirstRepeat (names : List String) (name : String) :
    firstRepeat [] names = some name ↔ IsFirstRepeat names name := by
  rw [firstRepeat_eq_some_iff, IsFirstRepeat]
  simp

section TypeCheck

variable {names : List String} {type : ConceptType}

theorem unknownParent?_eq_none_iff :
    (type.parents.find? fun parent => !names.contains parent) = none ↔
      ∀ parent ∈ type.parents, parent ∈ names := by
  simp

theorem unknownParent?_eq_some_iff (parent : String) :
    (type.parents.find? fun parent => !names.contains parent) = some parent ↔
      ∃ front back, type.parents = front ++ parent :: back ∧
        (∀ other ∈ front, other ∈ names) ∧ parent ∉ names := by
  rw [List.find?_eq_some_iff_append]
  simp only [Bool.not_not, Bool.not_eq_true', List.contains_eq_mem, decide_eq_false_iff_not,
    decide_eq_true_eq]
  constructor
  · rintro ⟨unknown, front, back, isParents, frontKnown⟩
    exact ⟨front, back, isParents, frontKnown, unknown⟩
  · rintro ⟨front, back, isParents, frontKnown, unknown⟩
    exact ⟨unknown, front, back, isParents, frontKnown⟩

theorem invalidKeyword?_eq_none_iff :
    (type.keyword.filter fun keyword => !isKeyword keyword) = none ↔
      ∀ keyword ∈ type.keyword, Scan.IsOneName keyword := by
  rw [Option.filter_eq_none_iff]
  simp only [Bool.not_eq_true', Bool.not_eq_false, isKeyword_iff_isOneName]
  rfl

theorem invalidKeyword?_eq_some_iff (keyword : String) :
    (type.keyword.filter fun keyword => !isKeyword keyword) = some keyword ↔
      type.keyword = some keyword ∧ ¬ Scan.IsOneName keyword := by
  rw [Option.filter_eq_some_iff, Bool.not_eq_true', ← Bool.not_eq_true, isKeyword_iff_isOneName]

theorem typeDefect?_eq_none_iff :
    typeDefect? names type = none ↔ TypeFits names type := by
  unfold typeDefect?
  split
  · next parent isFound =>
    obtain ⟨front, back, isParents, -, unknown⟩ := (unknownParent?_eq_some_iff parent).1 isFound
    have isParent : parent ∈ type.parents := by simp [isParents]
    constructor
    · rintro ⟨⟩
    · intro fits
      exact absurd (fits.parentsKnown parent isParent) unknown
  · next noneFound =>
    split
    · next keyword isFound =>
      obtain ⟨hasKeyword, notName⟩ := (invalidKeyword?_eq_some_iff keyword).1 isFound
      constructor
      · rintro ⟨⟩
      · intro fits
        exact absurd (fits.keywordIsName keyword hasKeyword) notName
    · next noneInvalid =>
      rw [Option.map_eq_none_iff, firstRepeat_eq_none_iff]
      constructor
      · rintro ⟨membersDistinct, -⟩
        exact ⟨unknownParent?_eq_none_iff.1 noneFound, invalidKeyword?_eq_none_iff.1 noneInvalid,
          membersDistinct⟩
      · intro fits
        exact ⟨fits.membersDistinct, fun _ _ => List.not_mem_nil⟩

theorem typeDefect?_eq_some_iff (defect : Defect) :
    typeDefect? names type = some defect ↔ ReportedOf names type defect := by
  constructor
  · intro isDefect
    unfold typeDefect? at isDefect
    split at isDefect
    · next parent isFound =>
      obtain ⟨front, back, isParents, frontKnown, unknown⟩ :=
        (unknownParent?_eq_some_iff parent).1 isFound
      obtain rfl := Option.some.inj isDefect
      exact .unknownParent isParents frontKnown unknown
    · next noneFound =>
      have parentsKnown := unknownParent?_eq_none_iff.1 noneFound
      split at isDefect
      · next keyword isFound =>
        obtain ⟨hasKeyword, notName⟩ := (invalidKeyword?_eq_some_iff keyword).1 isFound
        obtain rfl := Option.some.inj isDefect
        exact .invalidKeyword parentsKnown hasKeyword notName
      · next noneInvalid =>
        obtain ⟨member, isRepeat, rfl⟩ := Option.map_eq_some_iff.1 isDefect
        exact .duplicateMember parentsKnown (invalidKeyword?_eq_none_iff.1 noneInvalid)
          ((firstRepeat_eq_some_iff_isFirstRepeat _ member).1 isRepeat)
  · intro reported
    unfold typeDefect?
    cases reported with
    | unknownParent isParents frontKnown unknown =>
      rw [(unknownParent?_eq_some_iff _).2 ⟨_, _, isParents, frontKnown, unknown⟩]
    | invalidKeyword parentsKnown hasKeyword notName =>
      rw [unknownParent?_eq_none_iff.2 parentsKnown,
        (invalidKeyword?_eq_some_iff _).2 ⟨hasKeyword, notName⟩]
    | duplicateMember parentsKnown keywordIsName isRepeat =>
      rw [unknownParent?_eq_none_iff.2 parentsKnown, invalidKeyword?_eq_none_iff.2 keywordIsName,
        (firstRepeat_eq_some_iff_isFirstRepeat _ _).2 isRepeat]
      rfl

end TypeCheck

theorem IsFirstRepeat.not_nodup
    {names : List String} {name : String}
    (isRepeat : IsFirstRepeat names name) :
    ¬ names.Nodup := by
  obtain ⟨front, back, rfl, -, isEarlier⟩ := isRepeat
  rw [List.nodup_append]
  rintro ⟨-, -, apart⟩
  exact apart name isEarlier name List.mem_cons_self rfl

theorem defect?_eq_none_iff (types : List ConceptType) :
    defect? types = none ↔ WellFormed types := by
  unfold defect?
  dsimp only
  split
  · next name isRepeat =>
    have repeats := ((firstRepeat_eq_some_iff_isFirstRepeat _ name).1 isRepeat).not_nodup
    constructor
    · rintro ⟨⟩
    · intro wellFormed
      exact absurd wellFormed.namesDistinct repeats
  · next noneRepeats =>
    rw [List.findSome?_eq_none_iff]
    constructor
    · intro noDefect
      refine ⟨((firstRepeat_eq_none_iff [] _).1 noneRepeats).1, ?_⟩
      intro type isType
      exact typeDefect?_eq_none_iff.1 (noDefect type isType)
    · intro wellFormed type isType
      exact typeDefect?_eq_none_iff.2 (wellFormed.allFit type isType)

instance (types : List ConceptType) : Decidable (WellFormed types) :=
  decidable_of_iff (defect? types = none) (defect?_eq_none_iff types)

theorem defect?_eq_some_iff (types : List ConceptType) (defect : Defect) :
    defect? types = some defect ↔ Reported types defect := by
  constructor
  · intro isDefect
    unfold defect? at isDefect
    dsimp only at isDefect
    split at isDefect
    · next name isRepeat =>
      obtain rfl := Option.some.inj isDefect
      exact .duplicateType ((firstRepeat_eq_some_iff_isFirstRepeat _ name).1 isRepeat)
    · next noneRepeats =>
      have namesDistinct := ((firstRepeat_eq_none_iff [] _).1 noneRepeats).1
      obtain ⟨front, type, back, isTypes, isDefect, noEarlier⟩ :=
        List.findSome?_eq_some_iff.1 isDefect
      refine .ofType namesDistinct isTypes ?_ ((typeDefect?_eq_some_iff defect).1 isDefect)
      intro other isOther
      exact typeDefect?_eq_none_iff.1 (noEarlier other isOther)
  · intro reported
    unfold defect?
    dsimp only
    cases reported with
    | duplicateType isRepeat =>
      rw [(firstRepeat_eq_some_iff_isFirstRepeat _ _).2 isRepeat]
    | ofType namesDistinct isTypes frontFits reported =>
      rw [(firstRepeat_eq_none_iff [] _).2 ⟨namesDistinct, fun _ _ => List.not_mem_nil⟩]
      refine List.findSome?_eq_some_iff.2 ⟨_, _, _, isTypes, ?_, ?_⟩
      · exact (typeDefect?_eq_some_iff defect).2 reported
      · intro other isOther
        exact typeDefect?_eq_none_iff.2 (frontFits other isOther)

/-! ## Catalogs and reports -/

theorem ofTypes_eq_ok_iff (types : List ConceptType) (catalog : Catalog) :
    ofTypes types = .ok catalog ↔ catalog.types = types := by
  obtain ⟨listed, sound⟩ := catalog
  unfold ofTypes
  split
  · next noDefect =>
    rw [Except.ok.injEq, Catalog.mk.injEq]
    exact eq_comm
  · next defect isDefect =>
    constructor
    · rintro ⟨⟩
    · rintro rfl
      rw [sound] at isDefect
      cases isDefect

theorem ofTypes_eq_error_iff (types : List ConceptType) (defect : Defect) :
    ofTypes types = .error defect ↔ defect? types = some defect := by
  unfold ofTypes
  split
  · next noDefect => simp [noDefect]
  · next other isDefect => simp [isDefect]

/-- A list of types is a catalog, with its types as they are, exactly where it is well-formed. Of
any other list the first defect is reported. A keyword is one name to a scan exactly if it is not
empty and has only letters, digits and underscores. -/
theorem ofTypes_exact (types : List ConceptType) :
    ((∃ catalog, ofTypes types = .ok catalog) ↔ WellFormed types) ∧
      (∀ catalog, ofTypes types = .ok catalog ↔ catalog.types = types) ∧
      (∀ defect, ofTypes types = .error defect ↔ Reported types defect) ∧
      ∀ keyword, Scan.IsOneName keyword ↔
        keyword ≠ "" ∧ ∀ c ∈ keyword.toList, Text.isAlphanumeric c = true ∨ c = '_' := by
  refine ⟨?_, ofTypes_eq_ok_iff types, ?_, ?_⟩
  · rw [← defect?_eq_none_iff]
    constructor
    · rintro ⟨catalog, isCatalog⟩
      obtain rfl := (ofTypes_eq_ok_iff types catalog).1 isCatalog
      exact catalog.sound
    · intro sound
      exact ⟨⟨types, sound⟩, (ofTypes_eq_ok_iff types _).2 rfl⟩
  · intro defect
    rw [ofTypes_eq_error_iff, defect?_eq_some_iff]
  · intro keyword
    rw [Scan.isOneName_iff]
    simp only [Lexeme.isNameChar, Bool.or_eq_true, decide_eq_true_eq]

/-- A parent may come behind its child. -/
example :
    WellFormed [{ name := "A", keyword := some "a_1", parents := ["B"] }, { name := "B" }] := by
  decide +kernel

end Catalog

end ConceptScript
