import ConceptScript.Proofs.Editor.FirstSignature

/-!
Contract: the order in which the signatures of a keyword are listed.

A cursor keeps one candidate for each type, and the types of a catalog have different names. So no
two candidates have the same rank, and sorting them leaves nothing open. The types that are no
candidates follow as the catalog lists them. Every signature is listed once.

Owns the rank of candidates, and the list of signatures as a whole.

Does not own where the candidates come from.
-/

set_option autoImplicit false

namespace ConceptScript

/-! ## The active member -/

namespace Cursor

theorem activeMember_le (cursor : Cursor) (candidate : Concept) :
    cursor.activeMember candidate ≤ candidate.type.members.length := by
  unfold activeMember
  split
  · next member _ =>
    cases isIndex : candidate.type.memberIndex? member.name with
    | none => exact Nat.zero_le _
    | some index =>
      obtain ⟨inside, -⟩ := List.findIdx?_eq_some_iff_getElem.1 isIndex
      exact inside
  · exact Nat.zero_le _

end Cursor

namespace SignatureHelp

/-! ## Ranks -/

namespace Candidate

/-- What candidates are sorted by: whether all members are written, their number, and the name. -/
def rank (candidate : Candidate) : Bool × Nat × String :=
  (decide (candidate.type.members.length ≤ candidate.active), candidate.type.members.length,
    candidate.type.name)

/-- The rank is lower, compared from the left. What is false comes before what is true. -/
def Ahead (left right : Candidate) : Prop :=
  Prod.Lex (· < ·) (Prod.Lex (· < ·) (· < ·)) left.rank right.rank

theorem ahead_of_precedes
    {left right : Candidate}
    (isSorted : left.precedes right = true)
    (differ : left.type.name ≠ right.type.name) :
    left.Ahead right := by
  rw [Ahead, rank, rank, Prod.lex_def]
  rcases (precedes_iff left right).1 isSorted with ⟨leftOpen, rightFull⟩ | ⟨sameFull, isSorted⟩
  · left
    show left.isFull < right.isFull
    rw [leftOpen, rightFull]
    decide
  · refine .inr ⟨sameFull, ?_⟩
    rw [Prod.lex_def]
    rcases isSorted with isLess | ⟨sameLength, nameLe⟩
    · exact .inl isLess
    · refine .inr ⟨sameLength, String.not_le.1 fun nameGe => ?_⟩
      exact differ (String.le_antisymm nameLe nameGe)

/-- Whoever comes ahead of a candidate with a member left has one left as well. -/
theorem not_full_of_ahead
    {left right : Candidate}
    (isAhead : left.Ahead right)
    (isOpen : right.active < right.type.members.length) :
    left.active < left.type.members.length := by
  by_contra isFull
  have leftFull : left.rank.1 = true := decide_eq_true (Nat.le_of_not_lt isFull)
  have rightOpen : right.rank.1 = false := decide_eq_false (Nat.not_le_of_lt isOpen)
  rw [Ahead, Prod.lex_def, leftFull, rightOpen] at isAhead
  rcases isAhead with isLess | ⟨isSame, -⟩
  · exact absurd isLess (by decide)
  · cases isSame

/-- The first of sorted candidates has a member left if any of them has. -/
theorem first_not_full
    {first : Candidate} {later : List Candidate}
    (sorted : (first :: later).Pairwise Ahead)
    (someOpen :
      ∃ candidate ∈ first :: later, candidate.active < candidate.type.members.length) :
    first.active < first.type.members.length := by
  obtain ⟨candidate, isCandidate, isOpen⟩ := someOpen
  rcases List.mem_cons.1 isCandidate with rfl | isLater
  · exact isOpen
  · exact not_full_of_ahead (List.rel_of_pairwise_cons sorted isLater) isOpen

end Candidate

/-! ## The list of signatures -/

variable {catalog : Catalog} {types : List ConceptType} {cursor : Cursor}

theorem pairwise_names_candidates
    (distinct : (cursor.candidates.map Concept.typeName).Nodup) (types : List ConceptType) :
    (candidates types cursor).Pairwise fun left right => left.type.name ≠ right.type.name := by
  refine (List.mergeSort_perm _ _).symm.pairwise ?_ Ne.symm
  rw [List.pairwise_filterMap]
  refine (List.pairwise_map.1 distinct).imp ?_
  intro left right namesDiffer leftCandidate isLeft rightCandidate isRight
  obtain ⟨leftType, leftFound, rfl⟩ := Option.map_eq_some_iff.1 isLeft
  obtain ⟨rightType, rightFound, rfl⟩ := Option.map_eq_some_iff.1 isRight
  have leftName := List.find?_some leftFound
  have rightName := List.find?_some rightFound
  show leftType.name ≠ rightType.name
  rwa [eq_of_beq leftName, eq_of_beq rightName]

/-- The candidates are sorted, and no two of them have the same rank. -/
theorem pairwise_ahead_candidates
    (distinct : (cursor.candidates.map Concept.typeName).Nodup) (types : List ConceptType) :
    (candidates types cursor).Pairwise Candidate.Ahead := by
  have sorted : (candidates types cursor).Pairwise fun left right =>
      left.precedes right = true :=
    List.pairwise_mergeSort Candidate.precedes_trans Candidate.precedes_total _
  exact sorted.imp₂ (fun _ _ => Candidate.ahead_of_precedes)
    (pairwise_names_candidates distinct types)

theorem mem_candidates_iff_exists_concept
    (known : Cursor.Known catalog cursor.candidates)
    (isTypes : types ⊆ catalog.types) (candidate : Candidate) :
    candidate ∈ candidates types cursor ↔
      ∃ concept ∈ cursor.candidates, concept.type ∈ types ∧
        candidate = ⟨concept.type, cursor.activeMember concept⟩ := by
  rw [mem_candidates_iff known isTypes]
  constructor
  · rintro ⟨type, isMember, isCandidate, rfl⟩
    obtain ⟨concept, isConcept, rfl⟩ := List.mem_map.1 isCandidate
    exact ⟨concept, isConcept, isMember, rfl⟩
  · rintro ⟨concept, isConcept, isMember, rfl⟩
    exact ⟨concept.type, isMember, List.mem_map_of_mem isConcept, rfl⟩

theorem type_mem_candidates_iff
    (known : Cursor.Known catalog cursor.candidates)
    (isTypes : types ⊆ catalog.types) (type : ConceptType) :
    type ∈ (candidates types cursor).map Candidate.type ↔
      type ∈ types ∧ type ∈ cursor.candidates.map Concept.type := by
  rw [List.mem_map]
  constructor
  · rintro ⟨candidate, isCandidate, rfl⟩
    obtain ⟨type, isMember, isType, rfl⟩ := (mem_candidates_iff known isTypes _).1 isCandidate
    exact ⟨isMember, isType⟩
  · rintro ⟨isMember, isType⟩
    have isCandidate := (mem_candidates_iff known isTypes _).2 ⟨type, isMember, isType, rfl⟩
    exact ⟨ranked cursor type, isCandidate, rfl⟩

/-- The candidates come first, and the other types follow in their own order. -/
theorem signatures_ofCursor
    (known : Cursor.Known catalog cursor.candidates)
    (isTypes : types ⊆ catalog.types) :
    (ofCursor types cursor).signatures =
      (candidates types cursor).map Candidate.type ++
        types.filter fun type => type ∉ cursor.candidates.map Concept.type := by
  have sameRest : (types.filter fun type =>
        !((candidates types cursor).map Candidate.type).any fun other => other.name == type.name) =
      types.filter fun type => type ∉ cursor.candidates.map Concept.type := by
    apply List.filter_congr
    intro type isMember
    rw [Bool.eq_iff_iff, Bool.not_eq_true', List.any_eq_false, decide_eq_true_eq]
    constructor
    · intro noneNamed isCandidate
      have isListed := (type_mem_candidates_iff known isTypes type).2 ⟨isMember, isCandidate⟩
      exact noneNamed type isListed (beq_self_eq_true _)
    · intro notCandidate other isListed sameName
      obtain ⟨otherMember, isCandidate⟩ := (type_mem_candidates_iff known isTypes other).1 isListed
      obtain rfl : other = type :=
        Catalog.eq_of_name_eq (isTypes otherMember) (isTypes isMember) (eq_of_beq sameName)
      exact notCandidate isCandidate
  rw [← sameRest, ofCursor]
  cases candidates types cursor with
  | nil => simp
  | cons first later => rfl

/-- The first candidate is active, with the member of it that is written next. -/
theorem active_ofCursor
    {types : List ConceptType} {cursor : Cursor} {first : Candidate} {later : List Candidate}
    (isCandidates : candidates types cursor = first :: later) :
    (ofCursor types cursor).activeSignature = some 0 ∧
      (ofCursor types cursor).activeMember = some first.active := by
  rw [ofCursor, isCandidates]
  exact ⟨rfl, rfl⟩

/-- Without a candidate among the types nothing is active. -/
theorem ofCursor_of_noCandidate
    (known : Cursor.Known catalog cursor.candidates)
    (isTypes : types ⊆ catalog.types)
    (noneFits : ∀ concept ∈ cursor.candidates, concept.type ∉ types) :
    ofCursor types cursor = ⟨types, none, none⟩ := by
  have noCandidate : candidates types cursor = [] := by
    apply List.eq_nil_iff_forall_not_mem.2
    intro candidate isCandidate
    obtain ⟨concept, isConcept, isType, -⟩ :=
      (mem_candidates_iff_exists_concept known isTypes candidate).1 isCandidate
    exact noneFits concept isConcept isType
  rw [ofCursor, noCandidate]

/-- Every type is listed once. -/
theorem signatures_perm
    (known : Cursor.Known catalog cursor.candidates)
    (distinct : (cursor.candidates.map Concept.typeName).Nodup)
    (isTypes : types.Sublist catalog.types) :
    (ofCursor types cursor).signatures.Perm types := by
  have nodupTypes : types.Nodup := isTypes.nodup catalog.nodup_types
  have nodupCandidates : ((candidates types cursor).map Candidate.type).Nodup := by
    refine List.pairwise_map.2 ((pairwise_names_candidates distinct types).imp ?_)
    exact fun differ sameType => differ (congrArg ConceptType.name sameType)
  have sameTypes : ((candidates types cursor).map Candidate.type).Perm
      (types.filter fun type => type ∈ cursor.candidates.map Concept.type) := by
    rw [List.perm_ext_iff_of_nodup nodupCandidates (nodupTypes.filter _)]
    intro type
    rw [type_mem_candidates_iff known isTypes.subset, List.mem_filter, decide_eq_true_eq]
  have bothParts := List.filter_append_perm
    (fun type => decide (type ∈ cursor.candidates.map Concept.type)) types
  simp only [← decide_not] at bothParts
  rw [signatures_ofCursor known isTypes.subset]
  exact (sameTypes.append_right _).trans bothParts

/-- **The signatures of a keyword in order.** They are the types of the active keyword, each once.
Where some of them are candidates, these come first, strictly by rank, the others follow as in the
catalog, and the active member is that of the first candidate: it is left to write whenever any
candidate has a member left. Where none is a candidate, the order is that of the catalog and
nothing is active. -/
theorem signatures_in_order
    (catalog : Catalog) (text : Text) (position : Position) {help : SignatureHelp}
    (isHelp : (Document.signatureHelp? ⟨some catalog⟩ { text := text } position).1 = some help) :
    let cursor := (Analysis.run catalog text (some position)).cursor
    ∃ keyword, cursor.keyword = some keyword ∧
      let types := catalog.typesFor keyword.value
      help.signatures.Perm types ∧
      ((∃ concept ∈ cursor.candidates, concept.type ∈ types) →
        help.activeSignature = some 0 ∧
        ∃ first later,
          help.signatures = (first :: later).map Candidate.type ++
            types.filter (fun type => type ∉ cursor.candidates.map Concept.type) ∧
          (∀ candidate, candidate ∈ first :: later ↔
            ∃ concept ∈ cursor.candidates, concept.type ∈ types ∧
              candidate = ⟨concept.type, cursor.activeMember concept⟩) ∧
          (first :: later).Pairwise Candidate.Ahead ∧
          help.activeMember = some first.active ∧
          first.active ≤ first.type.members.length ∧
          ((∃ candidate ∈ first :: later,
              candidate.active < candidate.type.members.length) →
            first.active < first.type.members.length)) ∧
      ((∀ concept ∈ cursor.candidates, concept.type ∉ types) →
        help.signatures = types ∧ help.activeSignature = none ∧ help.activeMember = none) := by
  intro cursor
  obtain ⟨keyword, -, isKeyword, rfl⟩ := Analysis.exists_keyword_of_help isHelp
  have known : Cursor.Known catalog cursor.candidates :=
    fun _ => Analysis.type_of_candidate isKeyword
  have distinct : (cursor.candidates.map Concept.typeName).Nodup := by
    have isCursor := Analysis.cursor_of_keyword isKeyword
    show ((Analysis.run catalog text (some position)).cursor.candidates.map _).Nodup
    rw [Analysis.run, isCursor]
    exact Cursor.nodup_ofEvents _ _
  have isTypes : (catalog.typesFor keyword.value).Sublist catalog.types := List.filter_sublist
  refine ⟨keyword, isKeyword, signatures_perm known distinct isTypes, ?_, ?_⟩
  · rintro ⟨concept, isConcept, isType⟩
    have isMember := mem_candidates_iff_exists_concept known isTypes.subset
    have sorted := pairwise_ahead_candidates distinct (catalog.typesFor keyword.value)
    have isListed := signatures_ofCursor known isTypes.subset
    have notEmpty := List.ne_nil_of_mem ((isMember _).2 ⟨concept, isConcept, isType, rfl⟩)
    obtain ⟨first, later, isCandidates⟩ := List.exists_cons_of_ne_nil notEmpty
    obtain ⟨isActive, isFirst⟩ := active_ofCursor isCandidates
    rw [isCandidates] at isMember sorted isListed
    have inside : first.active ≤ first.type.members.length := by
      obtain ⟨own, -, -, rfl⟩ := (isMember first).1 List.mem_cons_self
      exact cursor.activeMember_le own
    exact ⟨isActive, first, later, isListed, isMember, sorted, isFirst, inside,
      Candidate.first_not_full sorted⟩
  · intro noneFits
    have isHelp := ofCursor_of_noCandidate known isTypes.subset noneFits
    show (ofCursor (catalog.typesFor keyword.value) cursor).signatures = _ ∧ _
    rw [isHelp]
    exact ⟨rfl, rfl, rfl⟩

/-- A type that is not allowed in a block of the first concept. -/
def foreignPart : ConceptType :=
  ⟨"Foreign", some "part", "", ["B"], [⟨"x", .text, none⟩]⟩

/-- A type that one member completes. -/
def fullPart : ConceptType :=
  ⟨"Full", some "part", "", ["A"], [⟨"x", .text, none⟩]⟩

/-- A type that has a member left behind the first one. -/
def openPart : ConceptType :=
  ⟨"Open", some "part", "", ["A"], [⟨"x", .text, none⟩, ⟨"y", .text, none⟩]⟩

def threeParts : Catalog :=
  ⟨[⟨"A", some "alpha", "", [], []⟩, ⟨"B", some "beta", "", [], []⟩, foreignPart, fullPart,
    openPart], by decide +kernel⟩

/-- Behind the first member the type with a member left comes first, although it has more members
and stands last in the catalog. -/
theorem signatures_in_order_of_threeParts :
    let text : Text := .ofString "alpha \x7b part a b; \x7d\n"
    let cursor := (Analysis.run threeParts text (some ⟨0, 14⟩)).cursor
    (Document.signatureHelp? ⟨some threeParts⟩ { text := text } ⟨0, 14⟩).1 =
        some ⟨[openPart, fullPart, foreignPart], some 0, some 1⟩ ∧
      (⟨openPart, ["a"]⟩ : Concept) ∈ cursor.candidates ∧
      [openPart, fullPart, foreignPart].Perm (threeParts.typesFor "part") ∧
      ∃ first later,
        [openPart, fullPart, foreignPart] = (first :: later).map Candidate.type ++
          (threeParts.typesFor "part").filter
            (fun type => type ∉ cursor.candidates.map Concept.type) ∧
        (first :: later).Pairwise Candidate.Ahead ∧
        some 1 = some first.active ∧ first.active < first.type.members.length := by
  intro text cursor
  have isFound : (cursor.candidates.filterMap fun concept =>
      ((threeParts.typesFor "part").find? fun type => type.name == concept.typeName).map
        fun type => (⟨type, cursor.activeMember concept⟩ : Candidate)) =
      [⟨fullPart, 1⟩, ⟨openPart, 1⟩] := by
    decide +kernel
  have isRanked : candidates (threeParts.typesFor "part") cursor =
      [⟨openPart, 1⟩, ⟨fullPart, 1⟩] := by
    have isBehind : (⟨fullPart, 1⟩ : Candidate).precedes ⟨openPart, 1⟩ = false := by decide
    rw [candidates, isFound]
    simp [List.mergeSort, isBehind]
  have isHelpKeyword : (Analysis.run threeParts text (some ⟨0, 14⟩)).helpKeyword? ⟨0, 14⟩ =
      some ⟨.identifier, "part", 8, 12⟩ := by
    decide +kernel
  have isHelp : (Document.signatureHelp? ⟨some threeParts⟩ { text := text } ⟨0, 14⟩).1 =
      some ⟨[openPart, fullPart, foreignPart], some 0, some 1⟩ := by
    show ((Analysis.run threeParts text (some ⟨0, 14⟩)).helpKeyword? ⟨0, 14⟩).map _ = _
    rw [isHelpKeyword, Option.map_some, ofCursor, isRanked]
    decide +kernel
  have isKeyword : cursor.keyword = some ⟨.identifier, "part", 8, 12⟩ := by decide +kernel
  have isConcept : (⟨openPart, ["a"]⟩ : Concept) ∈ cursor.candidates := by decide +kernel
  have isType : openPart ∈ threeParts.typesFor "part" := by decide +kernel
  have isActive : cursor.activeMember ⟨openPart, ["a"]⟩ < openPart.members.length := by
    decide +kernel
  obtain ⟨keyword, sameKeyword, isPerm, ofCandidates, -⟩ :=
    signatures_in_order threeParts text ⟨0, 14⟩ isHelp
  obtain rfl := Option.some.inj (sameKeyword.symm.trans isKeyword)
  obtain ⟨-, first, later, isListed, isMember, sorted, isFirst, -, isOpen⟩ :=
    ofCandidates ⟨_, isConcept, isType⟩
  have isCandidate := (isMember _).2 ⟨_, isConcept, isType, rfl⟩
  exact ⟨isHelp, isConcept, isPerm, first, later, isListed, sorted, isFirst,
    isOpen ⟨_, isCandidate, isActive⟩⟩

end SignatureHelp

end ConceptScript
