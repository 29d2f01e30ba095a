import ConceptScript.Proofs.Analysis.OwnConcept
import ConceptScript.Proofs.Editor.ActiveMember

/-!
Contract: the type whose signature comes first.

It is the best one of all types of the keyword that are tried where the position is or for a concept
that begins behind it. Only the former are sure to be allowed in the context. So the first signature
belongs to the position exactly where one of them is at least as good as all that are tried later.

Owns the order of candidates, and where the first of them comes from.

Does not own the member that is shown as active.
-/

set_option autoImplicit false

namespace ConceptScript

namespace SignatureHelp

/-! ## The order of candidates -/

namespace Candidate

theorem precedes_iff (left right : Candidate) :
    left.precedes right = true ↔
      left.isFull = false ∧ right.isFull = true ∨
        left.isFull = right.isFull ∧
          (left.type.members.length < right.type.members.length ∨
            left.type.members.length = right.type.members.length ∧
              left.type.name ≤ right.type.name) := by
  have nameLe_iff : (!decide (right.type.name < left.type.name)) = true ↔
      left.type.name ≤ right.type.name := by
    rw [Bool.not_eq_true', decide_eq_false_iff_not, String.not_lt]
  unfold precedes
  by_cases sameFull : left.isFull = right.isFull
  · rw [if_pos sameFull]
    by_cases sameLength : left.type.members.length = right.type.members.length
    · rw [if_pos sameLength, nameLe_iff]
      simp [sameFull, sameLength]
    · simp [sameFull, sameLength]
  · cases leftFull : left.isFull <;> cases rightFull : right.isFull <;> simp_all

theorem precedes_total (left right : Candidate) :
    (left.precedes right || right.precedes left) = true := by
  rw [Bool.or_eq_true, precedes_iff, precedes_iff]
  by_cases sameFull : left.isFull = right.isFull
  · rcases Nat.lt_trichotomy left.type.members.length right.type.members.length with
      isLess | sameLength | isMore
    · exact .inl (.inr ⟨sameFull, .inl isLess⟩)
    · rcases String.le_total left.type.name right.type.name with nameLe | nameLe
      · exact .inl (.inr ⟨sameFull, .inr ⟨sameLength, nameLe⟩⟩)
      · exact .inr (.inr ⟨sameFull.symm, .inr ⟨sameLength.symm, nameLe⟩⟩)
    · exact .inr (.inr ⟨sameFull.symm, .inl isMore⟩)
  · cases leftFull : left.isFull <;> cases rightFull : right.isFull <;> simp_all

theorem precedes_trans (left middle right : Candidate)
    (isLeft : left.precedes middle = true)
    (isRight : middle.precedes right = true) :
    left.precedes right = true := by
  rw [precedes_iff] at isLeft isRight ⊢
  rcases isLeft with ⟨leftFull, middleFull⟩ | ⟨leftFull, isLeft⟩
  · rcases isRight with ⟨middleNot, -⟩ | ⟨sameFull, -⟩
    · rw [middleFull] at middleNot
      cases middleNot
    · exact .inl ⟨leftFull, sameFull ▸ middleFull⟩
  · rcases isRight with ⟨middleNot, rightFull⟩ | ⟨sameFull, isRight⟩
    · exact .inl ⟨leftFull.trans middleNot, rightFull⟩
    · refine .inr ⟨leftFull.trans sameFull, ?_⟩
      rcases isLeft with isLess | ⟨sameLength, nameLe⟩
      · exact .inl (by omega)
      · rcases isRight with isLess | ⟨sameLength', nameLe'⟩
        · exact .inl (by omega)
        · exact .inr ⟨sameLength.trans sameLength', String.le_trans nameLe nameLe'⟩

/-- Only candidates of the same name are as good as each other. -/
theorem name_eq_of_precedes
    {left right : Candidate}
    (isLeft : left.precedes right = true)
    (isRight : right.precedes left = true) :
    left.type.name = right.type.name := by
  rw [precedes_iff] at isLeft isRight
  have bothLe : left.type.name ≤ right.type.name ∧ right.type.name ≤ left.type.name := by
    grind
  exact String.le_antisymm bothLe.1 bothLe.2

end Candidate

/-! ## The first candidate -/

/-- A type as a candidate at a position. -/
def ranked (cursor : Cursor) (type : ConceptType) : Candidate :=
  ⟨type, cursor.activeMember ⟨type, []⟩⟩

variable {catalog : Catalog} {types : List ConceptType} {cursor : Cursor}

theorem mem_candidates_iff
    (known : Cursor.Known catalog cursor.candidates)
    (isTypes : types ⊆ catalog.types) (candidate : Candidate) :
    candidate ∈ candidates types cursor ↔
      ∃ type ∈ types, type ∈ cursor.candidates.map Concept.type ∧
        candidate = ranked cursor type := by
  rw [candidates, List.mem_mergeSort, List.mem_filterMap]
  constructor
  · rintro ⟨concept, isCandidate, isFound⟩
    obtain ⟨type, isType, rfl⟩ := Option.map_eq_some_iff.1 isFound
    have isMember := List.mem_of_find?_eq_some isType
    have sameName := List.find?_some isType
    obtain rfl : type = concept.type :=
      Catalog.eq_of_name_eq (isTypes isMember) (known concept isCandidate) (eq_of_beq sameName)
    exact ⟨concept.type, isMember, List.mem_map_of_mem isCandidate, rfl⟩
  · rintro ⟨type, isMember, isType, rfl⟩
    obtain ⟨concept, isCandidate, rfl⟩ := List.mem_map.1 isType
    refine ⟨concept, isCandidate, ?_⟩
    cases isFound : types.find? fun type => type.name == concept.typeName with
    | none => exact absurd (beq_self_eq_true _) (List.find?_eq_none.1 isFound _ isMember)
    | some found =>
      have sameName := List.find?_some isFound
      obtain rfl : found = concept.type :=
        Catalog.eq_of_name_eq (isTypes (List.mem_of_find?_eq_some isFound))
          (isTypes isMember) (eq_of_beq sameName)
      rfl

/-- Where a member is active, the first signature is that of a candidate which is at least as good
as all others. -/
theorem exists_best_of_active
    {active : Nat}
    (known : Cursor.Known catalog cursor.candidates)
    (isTypes : types ⊆ catalog.types)
    (isActive : (ofCursor types cursor).activeMember = some active) :
    ∃ type others, (ofCursor types cursor).signatures = type :: others ∧
      type ∈ types ∧ type ∈ cursor.candidates.map Concept.type ∧
      ∀ rival ∈ types, rival ∈ cursor.candidates.map Concept.type →
        (ranked cursor type).precedes (ranked cursor rival) = true := by
  unfold ofCursor at isActive ⊢
  split
  · next noCandidate =>
    rw [noCandidate] at isActive
    cases isActive
  · next first others isCandidates =>
    have isFirst : first ∈ candidates types cursor := by simp [isCandidates]
    obtain ⟨type, isMember, isType, rfl⟩ := (mem_candidates_iff known isTypes first).1 isFirst
    refine ⟨type, _, rfl, isMember, isType, ?_⟩
    intro rival rivalMember isRival
    have isSorted : (candidates types cursor).Pairwise fun left right =>
        left.precedes right = true :=
      List.pairwise_mergeSort Candidate.precedes_trans Candidate.precedes_total _
    have isCandidate : ranked cursor rival ∈ candidates types cursor :=
      (mem_candidates_iff known isTypes _).2 ⟨rival, rivalMember, isRival, rfl⟩
    rw [isCandidates] at isSorted isCandidate
    rcases List.mem_cons.1 isCandidate with isSame | isLater
    · rw [isSame]
      simpa using Candidate.precedes_total (ranked cursor type) (ranked cursor type)
    · exact List.rel_of_pairwise_cons isSorted isLater

end SignatureHelp

/-! ## Where it comes from -/

/-- Help at a position is made of the active keyword there. -/
theorem Analysis.exists_keyword_of_help
    {catalog : Catalog} {text : Text} {position : Position} {help : SignatureHelp}
    (isHelp : (run catalog text (some position)).signatureHelp? catalog position = some help) :
    ∃ keyword, (run catalog text (some position)).helpKeyword? position = some keyword ∧
      (ofText catalog (text.cutAfterLine (text.offsetOf position)) position).cursor.keyword =
        some keyword ∧
      help = .ofCursor (catalog.typesFor keyword.value)
        (run catalog text (some position)).cursor := by
  obtain ⟨keyword, isKeyword, rfl⟩ := Option.map_eq_some_iff.1 isHelp
  refine ⟨keyword, isKeyword, ?_, rfl⟩
  unfold helpKeyword? at isKeyword
  split at isKeyword
  · cases isKeyword
  · exact isKeyword

/-- What comes first is tried at the position or for a concept behind it. It is tried at the
position, and hence allowed in the context, exactly if some type tried there is at least as good as
all types of the keyword that are tried behind. -/
theorem SignatureHelp.first_tried_at_position_iff
    (catalog : Catalog) (text : Text) (position : Position) {help : SignatureHelp} {active : Nat}
    (isHelp : (Document.signatureHelp? ⟨some catalog⟩ { text := text } position).1 = some help)
    (isActive : help.activeMember = some active) :
    let analysis := Analysis.run catalog text (some position)
    let offset := text.offsetOf position
    let stream := Stream.ofText (text.cutAfterLine offset)
    let events := (catalog.parse stream.tokens stream.stop).events
    let target := Target.ofTokens stream.tokens offset
    let context := analysis.cursor.context
    ∃ keyword type others,
      analysis.helpKeyword? position = some keyword ∧ help.signatures = type :: others ∧
        Nonempty (OwnConcept catalog offset context keyword events) ∧
        ∀ own : OwnConcept catalog offset context keyword events,
          (type ∈ own.tried target ∨ type ∈ own.triedLater target) ∧
            (∀ tried ∈ own.tried target, Parse.applicable context tried = true) ∧
            (Parse.applicable context type = true ∧ type ∈ own.tried target ↔
              ∃ tried ∈ own.tried target, ∀ rival ∈ own.triedLater target,
                rival.matchesKeyword keyword.value = true →
                  (ranked analysis.cursor tried).precedes (ranked analysis.cursor rival) =
                    true) := by
  intro analysis offset stream events target context
  have sameOffset : (text.cutAfterLine offset).offsetOf position = offset :=
    (Text.cut_cutAfterLine text position).offsetOf_eq
  obtain ⟨keyword, isHelpKeyword, isKeyword, rfl⟩ := Analysis.exists_keyword_of_help isHelp
  have known : Cursor.Known catalog analysis.cursor.candidates :=
    fun _ => Analysis.type_of_candidate isKeyword
  have isTypes : catalog.typesFor keyword.value ⊆ catalog.types := List.filter_subset_self _
  obtain ⟨type, others, isFirst, isMember, isCandidate, isBest⟩ :=
    exists_best_of_active known isTypes isActive
  have exists_own := Analysis.exists_own_of_active isKeyword
  have isCursor := Analysis.cursor_of_keyword isKeyword
  rw [sameOffset] at exists_own isCursor
  refine ⟨keyword, type, others, isHelpKeyword, isFirst, exists_own, ?_⟩
  intro (own : OwnConcept catalog target.offset context keyword events)
  have eventTypes : ∀ event ∈ events, ∀ concept ∈ event.concept?, concept.type ∈ catalog.types :=
    (Occurrence.grouped_parse ..).known
  have isTried (other : ConceptType) : other ∈ analysis.cursor.candidates.map Concept.type ↔
      other ∈ own.tried target ∨ other ∈ own.triedLater target := by
    have ofEvents : other ∈ (Cursor.ofEvents target events).candidates.map Concept.type ↔
        other ∈ own.tried target ∨ other ∈ own.triedLater target :=
      own.type_mem_candidates_iff eventTypes other
    rw [← ofEvents, show analysis.cursor = .ofEvents target events from isCursor]
  have fromEither := (isTried type).1 isCandidate
  refine ⟨fromEither, fun _ isOwn => (own.applicable_of_tried isOwn).2, ?_⟩
  constructor
  · rintro ⟨-, isOwn⟩
    refine ⟨type, isOwn, ?_⟩
    intro rival isLater isMatch
    have isRival : rival ∈ catalog.typesFor keyword.value :=
      List.mem_filter.2 ⟨own.type_mem_types_of_triedLater eventTypes isLater, isMatch⟩
    exact isBest rival isRival ((isTried rival).2 (.inr isLater))
  · rintro ⟨tried, triedHere, isAhead⟩
    have isOwn : type ∈ own.tried target := by
      rcases fromEither with isOwn | isLater
      · exact isOwn
      · -- The first one is as good as a type tried at the position, so it is the same type.
        have triedMember := (own.applicable_of_tried triedHere).1
        have typeAhead := isBest tried triedMember ((isTried tried).2 (.inl triedHere))
        have triedAhead := isAhead type isLater (List.mem_filter.1 isMember).2
        obtain rfl : type = tried :=
          Catalog.eq_of_name_eq (isTypes isMember) (isTypes triedMember)
            (Candidate.name_eq_of_precedes typeAhead triedAhead)
        exact triedHere
    exact ⟨(own.applicable_of_tried isOwn).2, isOwn⟩

/-- A type with two members, allowed in one block only. -/
def alphaPart : ConceptType :=
  ⟨"One", some "part", "", ["A"], [⟨"x", .text, none⟩, ⟨"y", .text, none⟩]⟩

/-- A type with the same keyword and one member, allowed in the other block only. -/
def betaPart : ConceptType :=
  ⟨"Two", some "part", "", ["B"], [⟨"x", .text, none⟩]⟩

def partsInBlocks : Catalog :=
  ⟨[⟨"A", some "alpha", "", [], []⟩, ⟨"B", some "beta", "", [], []⟩, alphaPart, betaPart],
    by decide +kernel⟩

/-- In front of a line break the other block is not seen, so nothing is tried behind. -/
theorem SignatureHelp.first_tried_on_own_line :
    let text : Text := .ofString "alpha \x7b part a b; \x7d\nbeta \x7b part c; \x7d\n"
    let analysis := Analysis.run partsInBlocks text (some ⟨0, 9⟩)
    let stream := Stream.ofText (text.cutAfterLine (text.offsetOf ⟨0, 9⟩))
    let events := (partsInBlocks.parse stream.tokens stream.stop).events
    let target := Target.ofTokens stream.tokens (text.offsetOf ⟨0, 9⟩)
    let context := analysis.cursor.context
    (Document.signatureHelp? ⟨some partsInBlocks⟩ { text := text } ⟨0, 9⟩).1 =
        some ⟨[alphaPart, betaPart], some 0, some 0⟩ ∧
      ∃ keyword type others,
        analysis.helpKeyword? ⟨0, 9⟩ = some keyword ∧ [alphaPart, betaPart] = type :: others ∧
          Nonempty (OwnConcept partsInBlocks (text.offsetOf ⟨0, 9⟩) context keyword events) ∧
          ∀ own : OwnConcept partsInBlocks (text.offsetOf ⟨0, 9⟩) context keyword events,
            (type ∈ own.tried target ∨ type ∈ own.triedLater target) ∧
              (∀ tried ∈ own.tried target, Parse.applicable context tried = true) ∧
              (Parse.applicable context type = true ∧ type ∈ own.tried target ↔
                ∃ tried ∈ own.tried target, ∀ rival ∈ own.triedLater target,
                  rival.matchesKeyword keyword.value = true →
                    (ranked analysis.cursor tried).precedes (ranked analysis.cursor rival) =
                      true) := by
  intro text analysis stream events target context
  have isHelp : (Document.signatureHelp? ⟨some partsInBlocks⟩ { text := text } ⟨0, 9⟩).1 =
      some ⟨[alphaPart, betaPart], some 0, some 0⟩ := by
    decide +kernel
  exact ⟨isHelp, SignatureHelp.first_tried_at_position_iff partsInBlocks text ⟨0, 9⟩ isHelp rfl⟩

/-- Without the line break the part in the other block is tried too. It has fewer members, so it
comes first, although it is not allowed where the position is. -/
theorem SignatureHelp.first_tried_in_later_block :
    let text : Text := .ofString "alpha \x7b part a b; \x7d beta \x7b part c; \x7d\n"
    let context := (Analysis.run partsInBlocks text (some ⟨0, 9⟩)).cursor.context
    (Document.signatureHelp? ⟨some partsInBlocks⟩ { text := text } ⟨0, 9⟩).1 =
        some ⟨[betaPart, alphaPart], some 0, some 0⟩ ∧
      context.map Concept.typeName = ["A"] ∧
      Parse.applicable context betaPart = false ∧ Parse.applicable context alphaPart = true := by
  intro text context
  let cursor := (Analysis.run partsInBlocks text (some ⟨0, 9⟩)).cursor
  have isKeyword : (Analysis.run partsInBlocks text (some ⟨0, 9⟩)).helpKeyword? ⟨0, 9⟩ =
      some ⟨.identifier, "part", 8, 12⟩ := by
    decide +kernel
  have isFound : (cursor.candidates.filterMap fun concept =>
      ((partsInBlocks.typesFor "part").find? fun type => type.name == concept.typeName).map
        fun type => (⟨type, cursor.activeMember concept⟩ : Candidate)) =
      [⟨alphaPart, 0⟩, ⟨betaPart, 0⟩] := by
    decide +kernel
  have isRanked : candidates (partsInBlocks.typesFor "part") cursor =
      [⟨betaPart, 0⟩, ⟨alphaPart, 0⟩] := by
    have isBehind : (⟨alphaPart, 0⟩ : Candidate).precedes ⟨betaPart, 0⟩ = false := by decide
    rw [candidates, isFound]
    simp [List.mergeSort, isBehind]
  refine ⟨?_, by decide +kernel⟩
  show ((Analysis.run partsInBlocks text (some ⟨0, 9⟩)).helpKeyword? ⟨0, 9⟩).map _ = _
  rw [isKeyword, Option.map_some, ofCursor, isRanked]
  decide +kernel

end ConceptScript
