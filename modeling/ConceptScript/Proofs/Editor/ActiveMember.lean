import ConceptScript.Editor.SignatureHelp
import ConceptScript.Proofs.Analysis.Progress
import ConceptScript.Proofs.Text.Cut

/-!
Contract: the member that signature help shows as the next one to be written.

It is the number of members of the first signature that have been read in the last occurrence in
which any of them was. This is the occurrence at the position where a member of it has been read. As
long as none has, an earlier occurrence of the same type decides.

Owns the occurrences in front of a position, and which of them the active member belongs to.

Does not own the order of signatures.
-/

set_option autoImplicit false

namespace ConceptScript

/-- The occurrences of a text that start at or before an offset. -/
def occurrencesBefore (catalog : Catalog) (text : Text) (offset : Nat) : List Occurrence :=
  let stream := Stream.ofText text
  (Occurrence.ofEvents (catalog.parse stream.tokens stream.stop).events).filter
    (Occurrence.startsBefore offset)

/-! ## The candidate that comes first -/

/-- The active member is that of a candidate, the type of which is the first signature. -/
theorem SignatureHelp.exists_candidate_of_active
    {types : List ConceptType} {cursor : Cursor} {active : Nat}
    (isActive : (ofCursor types cursor).activeMember = some active) :
    ∃ candidate ∈ cursor.candidates, ∃ type ∈ types, ∃ others,
      type.name = candidate.typeName ∧ (ofCursor types cursor).signatures = type :: others ∧
        active = cursor.activeMember candidate := by
  unfold ofCursor at isActive ⊢
  split
  · next noCandidate =>
    rw [noCandidate] at isActive
    cases isActive
  · next first others isCandidates =>
    rw [isCandidates] at isActive
    have isFirst : first ∈ candidates types cursor := by simp [isCandidates]
    obtain ⟨candidate, isCandidate, isFound⟩ :=
      List.mem_filterMap.1 (List.mem_mergeSort.1 isFirst)
    obtain ⟨type, isType, rfl⟩ := Option.map_eq_some_iff.1 isFound
    have sameName := List.find?_some isType
    refine ⟨candidate, isCandidate, type, List.mem_of_find?_eq_some isType, _,
      eq_of_beq sameName, rfl, ?_⟩
    exact (Option.some.inj isActive).symm

/-! ## The occurrence that it belongs to -/

namespace Analysis

variable {catalog : Catalog} {text : Text} {position : Position} {keyword : Token}

theorem type_of_candidate
    {candidate : Concept}
    (isKeyword : (ofText catalog text position).cursor.keyword = some keyword)
    (isCandidate : candidate ∈ (ofText catalog text position).cursor.candidates) :
    candidate.type ∈ catalog.types := by
  rw [cursor_of_keyword isKeyword] at isCandidate
  obtain ⟨event, reported, isConcept⟩ := Cursor.exists_event_of_candidate isCandidate
  exact (Occurrence.grouped_parse ..).known event reported candidate isConcept

/-- The active keyword is that of the last occurrence in front of the position. -/
theorem exists_own_of_keyword
    (isKeyword : (ofText catalog text position).cursor.keyword = some keyword) :
    ∃ earlier own, occurrencesBefore catalog text (text.offsetOf position) = earlier ++ [own] ∧
      own.keyword = some keyword := by
  have isLast := Occurrence.keyword_of_after (after_of_keyword isKeyword)
  cases isOwn : (occurrencesBefore catalog text (text.offsetOf position)).getLast? with
  | none =>
    rw [occurrencesBefore] at isOwn
    rw [isOwn] at isLast
    cases isLast
  | some own =>
    obtain ⟨earlier, isSplit⟩ := List.getLast?_eq_some_iff.1 isOwn
    rw [occurrencesBefore] at isOwn
    rw [isOwn] at isLast
    exact ⟨earlier, own, isSplit, isLast⟩

theorem activeMember_eq_lastReadCount
    {candidate : Concept}
    (isKeyword : (ofText catalog text position).cursor.keyword = some keyword)
    (isType : candidate.type ∈ catalog.types) :
    (ofText catalog text position).cursor.activeMember candidate =
      Occurrence.lastReadCount candidate.type (text.offsetOf position)
        (occurrencesBefore catalog text (text.offsetOf position)) := by
  have ordered := Stream.ordered_tokens text
  have grouped := Occurrence.grouped_parse catalog (Stream.ofText text).tokens
    (Stream.ofText text).stop
  rw [cursor_of_keyword isKeyword, Occurrence.activeMember_ofEvents ordered isType,
    occurrencesBefore, Occurrence.lastReadCount_filter]
  -- The cursor sees occurrences behind the position too, but no read of theirs counts.
  intro occurrence isOccurrence isBehind
  exact (grouped.occurs occurrence isOccurrence).readCount_of_behind ordered isBehind candidate.type

end Analysis

theorem Occurrence.lastReadCount_eq_iff
    {type : ConceptType} {offset : Nat} (earlier : List Occurrence) (own : Occurrence) :
    lastReadCount type offset (earlier ++ [own]) = own.readCount type offset ↔
      0 < own.readCount type offset ∨
        ∀ other ∈ earlier, other.readCount type offset = 0 := by
  have isOwn : lastReadCount type offset [own] = own.readCount type offset := if_pos rfl
  rw [lastReadCount_append, isOwn, ← lastReadCount_eq_zero_iff]
  split <;> omega

/-- The active member of signature help counts the members of the first signature that are read in
the occurrence at the position, unless there are none: then an earlier occurrence decides. -/
theorem SignatureHelp.activeMember_eq_iff
    (catalog : Catalog) (text : Text) (position : Position) {help : SignatureHelp} {active : Nat}
    (isHelp : (Document.signatureHelp? ⟨some catalog⟩ { text := text } position).1 = some help)
    (isActive : help.activeMember = some active) :
    let offset := text.offsetOf position
    ∃ type others earlier own,
      help.signatures = type :: others ∧
        occurrencesBefore catalog (text.cutAfterLine offset) offset = earlier ++ [own] ∧
        own.keyword = (Analysis.run catalog text (some position)).helpKeyword? position ∧
        active = Occurrence.lastReadCount type offset (earlier ++ [own]) ∧
        (active = own.readCount type offset ↔
          0 < own.readCount type offset ∨
            ∀ other ∈ earlier, other.readCount type offset = 0) := by
  intro offset
  have sameOffset : (text.cutAfterLine offset).offsetOf position = offset :=
    (Text.cut_cutAfterLine text position).offsetOf_eq
  have isMapped : (Analysis.run catalog text (some position)).signatureHelp? catalog position =
      some help := isHelp
  obtain ⟨keyword, isHelpKeyword, isOfCursor⟩ := Option.map_eq_some_iff.1 isMapped
  have isKeyword : (Analysis.ofText catalog (text.cutAfterLine offset) position).cursor.keyword =
      some keyword := by
    have notBelow := isHelpKeyword
    unfold Analysis.helpKeyword? at notBelow
    split at notBelow
    · cases notBelow
    · exact notBelow
  subst isOfCursor
  obtain ⟨candidate, isCandidate, type, isType, others, sameName, isFirst, rfl⟩ :=
    SignatureHelp.exists_candidate_of_active isActive
  obtain rfl : type = candidate.type :=
    Catalog.eq_of_name_eq (List.mem_filter.1 isType).1
      (Analysis.type_of_candidate isKeyword isCandidate) sameName
  obtain ⟨earlier, own, isSplit, isOwn⟩ := Analysis.exists_own_of_keyword isKeyword
  rw [sameOffset] at isSplit
  have isCount := Analysis.activeMember_eq_lastReadCount isKeyword (List.mem_filter.1 isType).1
  rw [sameOffset, isSplit] at isCount
  refine ⟨candidate.type, others, earlier, own, isFirst, isSplit, ?_, isCount, ?_⟩
  · rw [isHelpKeyword, isOwn]
  · show (Analysis.ofText catalog (text.cutAfterLine offset) position).cursor.activeMember candidate
      = _ ↔ _
    rw [isCount]
    exact Occurrence.lastReadCount_eq_iff earlier own

/-- A type with two members. -/
def pairedPart : ConceptType :=
  ⟨"Part", some "part", "", [], [⟨"Of", .text, none⟩, ⟨"In", .text, none⟩]⟩

def pairedParts : Catalog :=
  ⟨[pairedPart], by decide +kernel⟩

/-- Behind the first member of the second part. -/
theorem SignatureHelp.activeMember_in_second_part :
    let text : Text := .ofString "part a b; part c\n;"
    (Document.signatureHelp? ⟨some pairedParts⟩ { text := text } ⟨0, 16⟩).1 =
        some ⟨[pairedPart], some 0, some 1⟩ ∧
      ∃ type others earlier own,
        [pairedPart] = type :: others ∧
          occurrencesBefore pairedParts (text.cutAfterLine (text.offsetOf ⟨0, 16⟩))
            (text.offsetOf ⟨0, 16⟩) = earlier ++ [own] ∧
          own.keyword = (Analysis.run pairedParts text (some ⟨0, 16⟩)).helpKeyword? ⟨0, 16⟩ ∧
          1 = Occurrence.lastReadCount type (text.offsetOf ⟨0, 16⟩) (earlier ++ [own]) ∧
          (1 = own.readCount type (text.offsetOf ⟨0, 16⟩) ↔
            0 < own.readCount type (text.offsetOf ⟨0, 16⟩) ∨
              ∀ other ∈ earlier, other.readCount type (text.offsetOf ⟨0, 16⟩) = 0) := by
  intro text
  have isHelp : (Document.signatureHelp? ⟨some pairedParts⟩ { text := text } ⟨0, 16⟩).1 =
      some ⟨[pairedPart], some 0, some 1⟩ := by
    decide +kernel
  exact ⟨isHelp, SignatureHelp.activeMember_eq_iff pairedParts text ⟨0, 16⟩ isHelp rfl⟩

/-- A type with one member. -/
def singlePart : ConceptType :=
  ⟨"Part", some "part", "", [], [⟨"Of", .text, none⟩]⟩

def singleParts : Catalog :=
  ⟨[singlePart], by decide +kernel⟩

/-- Behind the keyword of the second part nothing is read yet, but the first part is complete. -/
theorem SignatureHelp.activeMember_of_earlier_part :
    let text : Text := .ofString "part a; part\n"
    (Document.signatureHelp? ⟨some singleParts⟩ { text := text } ⟨0, 12⟩).1 =
        some ⟨[singlePart], some 0, some 1⟩ ∧
      (occurrencesBefore singleParts (text.cutAfterLine 12) 12).map
          (fun occurrence => (occurrence.keyword, occurrence.readCount singlePart 12)) =
        [(some ⟨.identifier, "part", 0, 4⟩, 1), (some ⟨.identifier, "part", 8, 12⟩, 0)] := by
  decide +kernel

end ConceptScript
