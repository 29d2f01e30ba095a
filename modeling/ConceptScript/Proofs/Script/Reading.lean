import ConceptScript.Proofs.Catalog.Distinct
import ConceptScript.Proofs.Script.Grammar

/-!
Contract: what is read at a place of a script is what the grammar finds there.

Owns the agreement for members, for the attempts at one type, and for the choice between types.

Does not own blocks.
-/

set_option autoImplicit false

namespace ConceptScript

open Grammar

/-! ## Members -/

/-- A path that is begun by `front` and a first text goes on up to where no dot follows. -/
theorem Reader.readDotted_of_path
    {tokens after : List Token} {value : String}
    (path : Path tokens value)
    (noDot : ∀ token ∈ after.head?, token.isSpecial "." = false)
    {first : Token} {tail : List Token}
    (isTokens : tokens = first :: tail)
    (front : String) (consumed : List Token) (stop : Nat) :
    readDotted (front ++ first.value) (first :: consumed) stop (tail ++ after) =
      (.ok (front ++ value), ⟨tokens.reverse ++ consumed, after, stop⟩) := by
  induction path generalizing first tail front consumed with
  | text =>
    obtain ⟨rfl, rfl⟩ := List.cons.inj isTokens
    match after with
    | [] => simp [readDotted]
    | [other] => simp [readDotted, noDot other rfl]
    | other :: another :: rest => simp [readDotted, noDot other rfl]
  | @dotted token dot tokens path isText isDot later inductionHypothesis =>
    obtain ⟨rfl, rfl⟩ := List.cons.inj isTokens
    obtain ⟨second, rest, rfl⟩ : ∃ second rest, tokens = second :: rest := by
      cases later <;> exact ⟨_, _, rfl⟩
    have secondText : second.isText = true := by
      cases later <;> assumption
    have continued := inductionHypothesis rfl (front ++ token.value ++ ".") (dot :: token :: consumed)
    simp only [List.cons_append, readDotted, isDot, secondText, ↓reduceIte]
    rw [continued]
    simp [String.append_assoc]

theorem Reader.path_of_readDotted
    {path value : String} {consumed rest : List Token} {stop : Nat} {next : Reader}
    (isRead : readDotted path consumed stop rest = (.ok value, next)) :
    ∃ tail, rest = tail ++ next.rest ∧ next.consumed = tail.reverse ++ consumed ∧
      next.stop = stop ∧
      (∀ token ∈ next.rest.head?, token.isSpecial "." = false) ∧
      ∀ (front : String) (first : Token), first.isText = true → path = front ++ first.value →
        ∃ suffix, value = front ++ suffix ∧ Path (first :: tail) suffix := by
  fun_induction readDotted path consumed stop rest generalizing value next with
  | case1 =>
    obtain ⟨⟨⟩, rfl⟩ := Prod.mk.inj isRead
    refine ⟨[], rfl, rfl, rfl, by simp, ?_⟩
    intro front first isText isPath
    exact ⟨first.value, isPath, .text isText⟩
  | case2 => cases isRead
  | case3 path consumed dot noDot =>
    obtain ⟨⟨⟩, rfl⟩ := Prod.mk.inj isRead
    refine ⟨[], rfl, rfl, rfl, by simpa using noDot, ?_⟩
    intro front first isText isPath
    exact ⟨first.value, isPath, .text isText⟩
  | case4 path consumed dot part rest isDot partText inductionHypothesis =>
    obtain ⟨tail, isRest, isConsumed, isStop, noDot, isPath⟩ := inductionHypothesis isRead
    refine ⟨dot :: part :: tail, by simp [isRest], by simp [isConsumed], isStop, noDot, ?_⟩
    rintro front first isText rfl
    obtain ⟨suffix, rfl, later⟩ := isPath (front ++ first.value ++ ".") part partText rfl
    exact ⟨first.value ++ "." ++ suffix, by simp [String.append_assoc],
      .dotted isText isDot later⟩
  | case5 => cases isRead
  | case6 path consumed dot part rest noDot =>
    obtain ⟨⟨⟩, rfl⟩ := Prod.mk.inj isRead
    refine ⟨[], rfl, rfl, rfl, by simpa using noDot, ?_⟩
    intro front first isText isPath
    exact ⟨first.value, isPath, .text isText⟩

theorem Reader.readMember_of_argument
    {kind : Member.Kind} {tokens after : List Token} {value : String}
    (argument : Argument kind tokens value after) (consumed : List Token) (stop : Nat) :
    readMember ⟨consumed, tokens ++ after, stop⟩ kind =
      (.ok value, ⟨tokens.reverse ++ consumed, after, stop⟩) := by
  cases argument with
  | text isText => simp [readMember, readText, advance, isText]
  | reference path noDot =>
    obtain ⟨first, tail, rfl⟩ : ∃ first tail, tokens = first :: tail := by
      cases path <;> exact ⟨_, _, rfl⟩
    have isText : first.isText = true := by
      cases path <;> assumption
    have continued := readDotted_of_path path noDot rfl "" consumed stop
    simp only [String.empty_append] at continued
    simp [readMember, readReference, readText, advance, isText, continued]

theorem Reader.argument_of_readMember
    {reader next : Reader} {kind : Member.Kind} {value : String}
    (isRead : reader.readMember kind = (.ok value, next)) :
    ∃ tokens after, reader.rest = tokens ++ after ∧
      next = ⟨tokens.reverse ++ reader.consumed, after, reader.stop⟩ ∧
      Argument kind tokens value after := by
  obtain ⟨consumed, rest, stop⟩ := reader
  cases rest with
  | nil => cases kind <;> simp [readMember, readReference, readText] at isRead
  | cons token rest =>
    by_cases isText : token.isText = true
    · cases kind with
      | text =>
        simp only [readMember, readText, advance, isText, ↓reduceIte] at isRead
        obtain ⟨⟨⟩, rfl⟩ := Prod.mk.inj isRead
        exact ⟨[token], rest, rfl, rfl, .text isText⟩
      | reference =>
        simp only [readMember, readReference, readText, advance, isText, ↓reduceIte] at isRead
        obtain ⟨tail, isRest, isConsumed, isStop, noDot, isPath⟩ := path_of_readDotted isRead
        obtain ⟨suffix, rfl, path⟩ := isPath "" token isText (by simp)
        obtain ⟨nextConsumed, nextRest, nextStop⟩ := next
        simp only at isRest isConsumed isStop
        refine ⟨token :: tail, nextRest, by simp [isRest], by simp [isConsumed, isStop], ?_⟩
        simpa using Argument.reference path noDot
    · cases kind <;> simp [readMember, readReference, readText, isText] at isRead

namespace Parse

theorem readMembers_of_arguments
    {members : List Member} {arguments after : List Token} {more : List String}
    (areArguments : Arguments members arguments more after)
    (type : ConceptType) (values : List String) (consumed : List Token) (stop : Nat) :
    (readMembers type values members ⟨consumed, arguments ++ after, stop⟩).2 =
      .ok (⟨type, values ++ more⟩, ⟨arguments.reverse ++ consumed, after, stop⟩) := by
  induction areArguments generalizing values consumed with
  | nil => simp [readMembers]
  | @cons member members tokens more after value values first later inductionHypothesis =>
    have isRead := Reader.readMember_of_argument first consumed stop
    rw [← List.append_assoc] at isRead
    simp only [readMembers, isRead, inductionHypothesis]
    simp

theorem arguments_of_readMembers
    {type : ConceptType} {values : List String} {members : List Member} {reader next : Reader}
    {concept : Concept}
    (isRead : (readMembers type values members reader).2 = .ok (concept, next)) :
    ∃ arguments more after, reader.rest = arguments ++ after ∧
      next = ⟨arguments.reverse ++ reader.consumed, after, reader.stop⟩ ∧
      concept = ⟨type, values ++ more⟩ ∧
      Arguments members arguments more after := by
  induction members generalizing values reader with
  | nil =>
    obtain ⟨rfl, rfl⟩ := Prod.mk.inj (Except.ok.inj isRead)
    exact ⟨[], [], reader.rest, rfl, rfl, by simp, .nil⟩
  | cons member members inductionHypothesis =>
    rw [readMembers] at isRead
    split at isRead
    · next value between memberRead =>
      obtain ⟨tokens, middle, isRest, rfl, argument⟩ := Reader.argument_of_readMember memberRead
      obtain ⟨arguments, more, after, isMiddle, isNext, isConcept, later⟩ :=
        inductionHypothesis isRead
      obtain rfl : middle = arguments ++ after := isMiddle
      exact ⟨tokens ++ arguments, value :: more, after, by simp [isRest], by simp [isNext],
        by simp [isConcept], .cons argument later⟩
    · cases isRead

/-! ## Attempts -/

/-- An attempt succeeds exactly where the tokens write a concept of the type. -/
theorem attempt_eq_ok_iff
    {reader next : Reader} {type : ConceptType} {concept : Concept} {keyword : Token}
    {tail : List Token}
    (isRest : reader.rest = keyword :: tail)
    (isText : keyword.isText = true)
    (isKeyword : type.matchesKeyword keyword.value = true) :
    (attempt reader type).2 = .ok (concept, next) ↔
      concept.type = type ∧ ∃ head after, head ++ after = reader.rest ∧
        next = ⟨head.reverse ++ reader.consumed, after, reader.stop⟩ ∧
        Written concept head after := by
  obtain ⟨consumed, rest, stop⟩ := reader
  obtain rfl : rest = keyword :: tail := isRest
  unfold attempt
  constructor
  · intro isRead
    obtain ⟨arguments, values, after, isTail, rfl, rfl, areArguments⟩ :=
      arguments_of_readMembers isRead
    obtain rfl : tail = arguments ++ after := isTail
    exact ⟨rfl, keyword :: arguments, after, rfl, by simp [Reader.advance],
      .intro isText isKeyword areArguments⟩
  · rintro ⟨rfl, head, after, isHead, rfl, written⟩
    cases written with
    | @intro first arguments _ _ _ areArguments =>
      obtain ⟨rfl, rfl⟩ := List.cons.inj isHead
      have isRead := readMembers_of_arguments areArguments concept.type [] (first :: consumed) stop
      exact isRead.trans (by simp)

/-- Tokens write at most one concept of a type. -/
theorem eq_of_written
    {concept other : Concept} {head after otherHead otherAfter : List Token}
    (written : Written concept head after)
    (otherWritten : Written other otherHead otherAfter)
    (sameTokens : otherHead ++ otherAfter = head ++ after)
    (sameType : other.type = concept.type) :
    other = concept ∧ otherHead = head := by
  obtain ⟨keyword, arguments, rfl⟩ : ∃ keyword arguments, head = keyword :: arguments := by
    cases written
    exact ⟨_, _, rfl⟩
  have isText : keyword.isText = true := by
    cases written
    assumption
  have isKeyword : concept.type.matchesKeyword keyword.value = true := by
    cases written
    assumption
  have isRest : (Reader.ofTokens (keyword :: arguments ++ after) 0).rest =
      keyword :: (arguments ++ after) := rfl
  have isRead := (attempt_eq_ok_iff isRest isText isKeyword).2
    ⟨rfl, keyword :: arguments, after, rfl, rfl, written⟩
  have otherRead := (attempt_eq_ok_iff isRest isText isKeyword).2
    ⟨sameType, otherHead, otherAfter, sameTokens, rfl, otherWritten⟩
  rw [isRead] at otherRead
  obtain ⟨isOther, isReader⟩ := Prod.mk.inj (Except.ok.inj otherRead)
  refine ⟨isOther.symm, ?_⟩
  have isConsumed := congrArg Reader.consumed isReader
  simpa [Reader.ofTokens] using isConsumed.symm

/-! ## The choice between types -/

/-- The attempts at all types that a keyword may introduce. -/
def attemptsAt (catalog : Catalog) (stack : List Concept) (reader : Reader) (keyword : Token) :
    List Attempt :=
  ((catalog.typesFor keyword.value).filter (applicable stack)).map (attempt reader)

/-- The type of the innermost open concept. -/
def parentType (stack : List Concept) : Option ConceptType :=
  stack.head?.map Concept.type

@[simp]
theorem parentType_nil : parentType [] = none :=
  rfl

@[simp]
theorem parentType_cons (innermost : Concept) (outer : List Concept) :
    parentType (innermost :: outer) = some innermost.type :=
  rfl

theorem readConcept_of_isText
    {catalog : Catalog} {stack : List Concept} {reader : Reader} {keyword : Token}
    (isText : keyword.isText = true) :
    readConcept catalog stack reader keyword =
      (.keyword reader (some keyword.value) ::
          (attemptsAt catalog stack reader keyword).flatMap Prod.fst,
        choose catalog stack keyword (attemptsAt catalog stack reader keyword)) := by
  simp [readConcept, isText, attemptsAt]

theorem applicable_iff_allowed (stack : List Concept) (type : ConceptType) :
    applicable stack type = true ↔ Allowed (parentType stack) type := by
  cases stack <;> simp [applicable, Allowed, parentType, Concept.typeName]

theorem mem_readings_iff
    {catalog : Catalog} {stack : List Concept} {reader next : Reader} {keyword : Token}
    {tail : List Token} {concept : Concept}
    (isRest : reader.rest = keyword :: tail)
    (isText : keyword.isText = true) :
    (concept, next) ∈ readings (attemptsAt catalog stack reader keyword) ↔
      ∃ head after, head ++ after = reader.rest ∧
        next = ⟨head.reverse ++ reader.consumed, after, reader.stop⟩ ∧
        Reading catalog (parentType stack) concept head after := by
  have member : (concept, next) ∈ readings (attemptsAt catalog stack reader keyword) ↔
      ∃ type ∈ catalog.types, type.matchesKeyword keyword.value = true ∧
        Allowed (parentType stack) type ∧ (attempt reader type).2 = .ok (concept, next) := by
    simp only [readings, attemptsAt, List.mem_filterMap, List.mem_map, List.mem_filter,
      Catalog.typesFor, applicable_iff_allowed]
    constructor
    · rintro ⟨_, ⟨type, ⟨⟨known, isKeyword⟩, allowed⟩, rfl⟩, isOption⟩
      refine ⟨type, known, isKeyword, allowed, ?_⟩
      cases isRead : (attempt reader type).2 <;> simp_all [Except.toOption]
    · rintro ⟨type, known, isKeyword, allowed, isRead⟩
      exact ⟨_, ⟨type, ⟨⟨known, isKeyword⟩, allowed⟩, rfl⟩, by simp [isRead, Except.toOption]⟩
  rw [member]
  constructor
  · rintro ⟨type, known, isKeyword, allowed, isRead⟩
    obtain ⟨rfl, head, after, isHead, isNext, written⟩ :=
      (attempt_eq_ok_iff isRest isText isKeyword).1 isRead
    exact ⟨head, after, isHead, isNext, known, allowed, written⟩
  · rintro ⟨head, after, isHead, isNext, known, allowed, written⟩
    have isKeyword : concept.type.matchesKeyword keyword.value = true := by
      cases written with
      | intro _ isKeyword _ =>
        rw [isRest, List.cons_append] at isHead
        rwa [← (List.cons.inj isHead).1]
    exact ⟨concept.type, known, isKeyword, allowed,
      (attempt_eq_ok_iff isRest isText isKeyword).2 ⟨rfl, head, after, isHead, isNext, written⟩⟩

/-- Each type is tried once, so no reading occurs twice. -/
theorem nodup_readings
    {catalog : Catalog} {stack : List Concept} {reader : Reader} {keyword : Token}
    {tail : List Token}
    (isRest : reader.rest = keyword :: tail)
    (isText : keyword.isText = true) :
    (readings (attemptsAt catalog stack reader keyword)).Nodup := by
  have distinct : ((catalog.typesFor keyword.value).filter (applicable stack)).Nodup :=
    (catalog.nodup_types.filter _).filter _
  have isKeyword : ∀ type ∈ (catalog.typesFor keyword.value).filter (applicable stack),
      type.matchesKeyword keyword.value = true := by
    intro type member
    exact (List.mem_filter.1 (List.mem_filter.1 member).1).2
  unfold readings attemptsAt
  rw [List.filterMap_map]
  refine List.Pairwise.filterMap _ ?_ (List.Pairwise.and_mem.1 distinct)
  rintro type other ⟨typeMember, otherMember, different⟩ reading isReading otherReading isOther rfl
  obtain ⟨concept, next⟩ := reading
  apply different
  have typeRead : (attempt reader type).2 = .ok (concept, next) := by
    cases isRead : (attempt reader type).2 <;> simp_all [Except.toOption]
  have otherRead : (attempt reader other).2 = .ok (concept, next) := by
    cases isRead : (attempt reader other).2 <;> simp_all [Except.toOption]
  rw [← ((attempt_eq_ok_iff isRest isText (isKeyword type typeMember)).1 typeRead).1,
    ← ((attempt_eq_ok_iff isRest isText (isKeyword other otherMember)).1 otherRead).1]

theorem longest_eq_singleton_iff
    {found : List (Concept × Reader)} {reading : Concept × Reader}
    (distinct : found.Nodup) :
    longest found = [reading] ↔
      reading ∈ found ∧
        ∀ other ∈ found, other ≠ reading → other.2.position < reading.2.position := by
  have memberLongest : ∀ other, other ∈ longest found ↔
      other ∈ found ∧ ∀ third ∈ found, third.2.position ≤ other.2.position := by
    intro other
    simp [longest]
  constructor
  · intro isSingle
    have isLongest : reading ∈ longest found := by simp [isSingle]
    obtain ⟨member, greatest⟩ := (memberLongest reading).1 isLongest
    refine ⟨member, fun other otherMember different => ?_⟩
    apply Nat.lt_of_not_le
    intro notShorter
    have otherLongest : other ∈ longest found := by
      refine (memberLongest other).2 ⟨otherMember, fun third thirdMember => ?_⟩
      exact Nat.le_trans (greatest third thirdMember) notShorter
    rw [isSingle, List.mem_singleton] at otherLongest
    exact different otherLongest
  · rintro ⟨member, shorter⟩
    have isLongest : reading ∈ longest found := by
      refine (memberLongest reading).2 ⟨member, fun third thirdMember => ?_⟩
      by_cases same : third = reading
      · exact Nat.le_of_eq (by rw [same])
      · exact Nat.le_of_lt (shorter third thirdMember same)
    have onlyReading : ∀ other ∈ longest found, other = reading := by
      intro other otherLongest
      obtain ⟨otherMember, greatest⟩ := (memberLongest other).1 otherLongest
      by_cases same : other = reading
      · exact same
      · have less := shorter other otherMember same
        have notLess := greatest reading member
        omega
    have once : (longest found).Nodup := distinct.filter _
    match isFound : longest found with
    | [] => simp [isFound] at isLongest
    | [only] =>
      rw [onlyReading only (by simp [isFound])]
    | first :: second :: _ =>
      rw [isFound] at once
      have firstSame := onlyReading first (by simp [isFound])
      have secondSame := onlyReading second (by simp [isFound])
      simp [firstSame, secondSame] at once

theorem choose_eq_ok_iff
    {catalog : Catalog} {stack : List Concept} {keyword : Token} {attempts : List Attempt}
    {reading : Concept × Reader} :
    choose catalog stack keyword attempts = .ok reading ↔
      longest (readings attempts) = [reading] := by
  unfold choose
  split
  · next single isSingle => simp [isSingle]
  · next isEmpty =>
    rw [isEmpty]
    constructor
    · intro chosen
      split at chosen
      · cases chosen
      · split at chosen <;> cases chosen
    · intro isSingle
      cases isSingle
  · next several notSingle notEmpty =>
    constructor
    · intro chosen
      cases chosen
    · intro isSingle
      exact absurd isSingle (notSingle reading)

/-- A concept is read exactly where the grammar chooses one. -/
theorem readConcept_eq_ok_iff
    {catalog : Catalog} {stack : List Concept} {reader next : Reader} {keyword : Token}
    {tail : List Token} {concept : Concept}
    (isRest : reader.rest = keyword :: tail) :
    (readConcept catalog stack reader keyword).2 = .ok (concept, next) ↔
      ∃ head after, head ++ after = reader.rest ∧
        next = ⟨head.reverse ++ reader.consumed, after, reader.stop⟩ ∧
        Chosen catalog (parentType stack) concept head after := by
  by_cases isText : keyword.isText = true
  · rw [readConcept_of_isText isText, choose_eq_ok_iff,
      longest_eq_singleton_iff (nodup_readings isRest isText), mem_readings_iff isRest isText]
    constructor
    · rintro ⟨⟨head, after, isHead, rfl, reading⟩, shorter⟩
      refine ⟨head, after, isHead, rfl, reading, ?_⟩
      intro other otherHead otherAfter otherReading isOther different
      have member := (mem_readings_iff isRest isText).2
        ⟨otherHead, otherAfter, isOther.trans isHead, rfl, otherReading⟩
      have less := shorter _ member (by
        intro same
        exact different (congrArg Concept.type (Prod.mk.inj same).1))
      simp only [Reader.position, List.length_append, List.length_reverse] at less
      omega
    · rintro ⟨head, after, isHead, rfl, chosen⟩
      refine ⟨⟨head, after, isHead, rfl, chosen.toReading⟩, ?_⟩
      rintro ⟨other, otherNext⟩ member different
      obtain ⟨otherHead, otherAfter, isOther, rfl, otherReading⟩ :=
        (mem_readings_iff isRest isText).1 member
      have otherType : other.type ≠ concept.type := by
        intro sameType
        apply different
        obtain ⟨rfl, rfl⟩ := eq_of_written chosen.written otherReading.written
          (isOther.trans isHead.symm) sameType
        rw [List.append_cancel_left (isOther.trans isHead.symm)]
      have less := chosen.longest other otherHead otherAfter otherReading
        (isOther.trans isHead.symm) otherType
      simp only [Reader.position, List.length_append, List.length_reverse]
      omega
  · have notRead : (readConcept catalog stack reader keyword).2 =
        .error ⟨.keywordExpected keyword.value, keyword.start⟩ := by
      simp [readConcept, isText]
    rw [notRead]
    constructor
    · intro isRead
      cases isRead
    · rintro ⟨head, after, isHead, _, chosen⟩
      cases chosen.written with
      | intro firstText _ _ =>
        rw [isRest, List.cons_append] at isHead
        rw [(List.cons.inj isHead).1] at firstText
        exact absurd firstText isText

/-- A concept that is read lists the type of the innermost open one. -/
theorem mem_parents_of_readConcept
    {catalog : Catalog} {stack : List Concept} {reader next : Reader} {keyword : Token}
    {tail : List Token} {concept : Concept}
    (isRest : reader.rest = keyword :: tail)
    (isRead : (readConcept catalog stack reader keyword).2 = .ok (concept, next)) :
    ∀ outer ∈ stack.head?, outer.typeName ∈ concept.type.parents := by
  intro outer isOuter
  obtain ⟨head, after, -, -, chosen⟩ := (readConcept_eq_ok_iff isRest).1 isRead
  have isParent : outer.type ∈ parentType stack := by
    rw [parentType, isOuter]
    rfl
  simpa [ConceptType.allowedIn, Concept.typeName] using chosen.allowed outer.type isParent

end Parse

end ConceptScript
