import ConceptScript.Editor.Hover
import ConceptScript.Proofs.Analysis.CursorLine
import ConceptScript.Proofs.Analysis.NextBoundary
import ConceptScript.Proofs.Analysis.OwnConcept
import ConceptScript.Proofs.Analysis.SharedOffset
import ConceptScript.Proofs.Editor.ExactDiagnostics
import ConceptScript.Proofs.Text.Clamp

/-!
Contract: the range that documentation is shown for.

The range starts at the active keyword. It ends at the character in front of the first boundary
behind the position, and without such a boundary at the position itself. Where the position does not
exist, nothing of the line is left behind it and no boundary follows. So the range always holds the
position, and nothing of a later concept.

Owns both ends of the range.

Does not own which documentation is shown.
-/

set_option autoImplicit false

namespace ConceptScript

/-! ## The character in front of an offset -/

namespace Text

/-- An offset inside of a character counts as its start. -/
theorem positionAfter_inside
    {c : Char} {inner : Nat} (here : Position) (front back : List Char)
    (isInside : inner < c.utf8Size) :
    positionAfter here (byteSize front + inner) (front ++ c :: back) =
      front.foldl Position.after here := by
  rw [positionAfter_add]
  exact if_pos isInside

/-- One byte in front of an offset between characters lies the character in front of it. -/
theorem exists_char_before
    {text : Text} {offset : Nat}
    (isBoundary : text.IsBoundary offset)
    (notFirst : 0 < offset) :
    ∃ front c back, text.chars = front ++ c :: back ∧ byteSize (front ++ [c]) = offset ∧
      text.positionOf (offset - 1) = text.positionOf (byteSize front) := by
  obtain ⟨before, back, isText, isOffset⟩ := isBoundary
  obtain rfl | ⟨front, c, rfl⟩ := List.eq_nil_or_concat before
  · rw [byteSize] at isOffset
    omega
  · rw [List.concat_eq_append, List.append_assoc, List.singleton_append] at isText
    rw [List.concat_eq_append] at isOffset
    have charSize := Char.utf8Size_pos c
    have isSize : byteSize (front ++ [c]) = byteSize front + c.utf8Size := by
      rw [byteSize_append, byteSize, byteSize, Nat.add_zero]
    have isInner : offset - 1 = byteSize front + (c.utf8Size - 1) := by omega
    refine ⟨front, c, back, isText, isOffset, ?_⟩
    rw [positionOf, positionOf, isText, isInner, positionAfter_inside .zero front back (by omega),
      positionAfter_byteSize]

theorem IsBoundary.of_append
    {text cut : Text} {offset : Nat} {rest : List Char}
    (isBoundary : cut.IsBoundary offset)
    (isText : text.chars = cut.chars ++ rest) :
    text.IsBoundary offset := by
  obtain ⟨front, back, isCut, isOffset⟩ := isBoundary
  exact ⟨front, back ++ rest, by rw [isText, isCut, List.append_assoc], isOffset⟩

end Text

namespace Analysis

variable {catalog : Catalog} {text : Text} {position : Position} {keyword : Token}

/-- The boundaries that are reported while a text is parsed. -/
def boundaries (catalog : Catalog) (text : Text) : List Token :=
  Event.boundaries (catalog.parse (Stream.ofText text).tokens (Stream.ofText text).stop).events

theorem keyword_of_helpKeyword
    {analysis : Analysis}
    (isHelpKeyword : analysis.helpKeyword? position = some keyword) :
    analysis.cursor.keyword = some keyword := by
  unfold helpKeyword? at isHelpKeyword
  split at isHelpKeyword
  · cases isHelpKeyword
  · exact isHelpKeyword

theorem mem_tokens_of_active
    (isKeyword : (ofText catalog text position).cursor.keyword = some keyword) :
    keyword ∈ (Stream.ofText text).tokens ∧ keyword.start ≤ text.offsetOf position := by
  obtain ⟨own, concepts, steps⟩ := exists_reached_of_active isKeyword
  have sameTokens : own.reader.tokens = (Stream.ofText text).tokens := steps.reaches.tokens_eq
  refine ⟨?_, own.isBefore⟩
  rw [← sameTokens]
  exact List.mem_append_right _ (List.mem_of_mem_head? own.isKeyword)

/-- Where a keyword is active, what follows is the first boundary behind the position. -/
theorem next_of_active
    (isKeyword : (ofText catalog text position).cursor.keyword = some keyword) :
    (ofText catalog text position).cursor.next =
      (boundaries catalog text).find? fun token => text.offsetOf position < token.start := by
  rw [cursor_of_keyword isKeyword, Cursor.next_ofEvents]
  rfl

/-- The boundary that is reported first behind an offset also stands first. -/
theorem first_boundary
    {next : Token} {offset : Nat}
    (isFound : ((boundaries catalog text).find? fun token => offset < token.start) = some next) :
    next ∈ (Stream.ofText text).tokens ∧ next ∈ boundaries catalog text ∧ offset < next.start ∧
      ∀ other ∈ boundaries catalog text, offset < other.start → next.start ≤ other.start := by
  obtain ⟨areTokens, inOrder⟩ := Catalog.boundaries_parse (Stream.ordered_tokens text) catalog
    (Stream.ofText text).stop
  rw [← boundaries] at areTokens inOrder
  have isBoundary := List.mem_of_find?_eq_some isFound
  obtain ⟨isBehind, earlier, later, isList, allBefore⟩ := List.find?_eq_some_iff_append.1 isFound
  refine ⟨areTokens isBoundary, isBoundary, of_decide_eq_true isBehind, ?_⟩
  intro other isOther otherBehind
  rw [isList] at inOrder isOther
  rcases List.mem_append.1 isOther with isEarlier | isLater
  · have notBehind := allBefore other isEarlier
    simp [otherBehind] at notBehind
  · rcases List.mem_cons.1 isLater with rfl | isLater
    · exact Nat.le_refl _
    · exact List.rel_of_pairwise_cons (List.pairwise_append.1 inOrder).2.1 isLater

/-- A token behind the position has a character in front of it, which does not lie in front of the
position. -/
theorem le_char_before_token
    {next : Token}
    (isToken : next ∈ (Stream.ofText (text.cutAfterLine (text.offsetOf position))).tokens)
    (isBehind : text.offsetOf position < next.start) :
    position ≤ text.positionOf (next.start - 1) ∧
      ∃ front c back, text.chars = front ++ c :: back ∧
        Text.byteSize (front ++ [c]) = next.start ∧
        text.positionOf (next.start - 1) = text.positionOf (Text.byteSize front) := by
  have isCut := Text.cut_cutAfterLine text position
  obtain ⟨rest, isText, -⟩ := isCut.exists_append
  have isBoundary : text.IsBoundary next.start :=
    (Scan.isBoundary_of_mem isToken).1.of_append isText
  refine ⟨?_, Text.exists_char_before isBoundary (by omega)⟩
  -- A token behind a position that does not exist would begin behind the line feed of the cut.
  obtain ⟨notEmpty, isInside⟩ := token_before_end (List.mem_filter.1 isToken).1
  have existsPosition : text.positionOf (text.offsetOf position) = position :=
    Text.positionOf_offsetOf_of_inside (by omega)
  have inOrder : text.positionOf (text.offsetOf position) ≤ text.positionOf (next.start - 1) :=
    text.positionOf_mono (by omega)
  rwa [existsPosition] at inOrder

/-- Both ends of the range, told from the whole text and the boundaries up to the end of the
line. -/
theorem exists_ends_of_hover
    {hover : Hover}
    (isHover : (run catalog text (some position)).hover? catalog position = some hover) :
    ∃ keyword, (run catalog text (some position)).cursor.keyword = some keyword ∧
      keyword.start ≤ text.offsetOf position ∧
      hover.start = text.positionOf keyword.start ∧
      hover.stop =
        ((boundaries catalog (text.cutAfterLine (text.offsetOf position))).find? fun token =>
          text.offsetOf position < token.start).elim position
            fun next => text.positionOf (next.start - 1) := by
  obtain ⟨keyword, isHelpKeyword, rfl⟩ := Option.map_eq_some_iff.1 isHover
  have isKeyword := keyword_of_helpKeyword isHelpKeyword
  have isCut := Text.cut_cutAfterLine text position
  obtain ⟨isToken, isBefore⟩ := mem_tokens_of_active isKeyword
  have isNext := next_of_active isKeyword
  rw [isCut.offsetOf_eq] at isBefore isNext
  have isStart := isCut.positionOf_of_scanned (List.mem_filter.1 isToken).1 (Nat.le_refl _)
  refine ⟨keyword, isKeyword, isBefore, isStart, ?_⟩
  dsimp only [run]
  rw [isNext]
  cases isFound : (boundaries catalog (text.cutAfterLine (text.offsetOf position))).find?
      fun token => text.offsetOf position < token.start with
  | none => rfl
  | some next =>
    have isToken := (first_boundary isFound).1
    exact isCut.positionOf_of_scanned (List.mem_filter.1 isToken).1 (Nat.sub_le _ _)

end Analysis

/-- **The range of documentation.** It starts at the active keyword and holds the position. With a
boundary behind the position it ends at the character in front of the first one, and otherwise at
the position. -/
theorem Hover.range_holds_position
    (catalog : Catalog) (text : Text) (position : Position) {hover : Hover}
    (isHover : (Document.hover? ⟨some catalog⟩ { text := text } position).1 = some hover) :
    let offset := text.offsetOf position
    let boundaries := Analysis.boundaries catalog (text.cutAfterLine offset)
    ∃ keyword, (Analysis.run catalog text (some position)).cursor.keyword = some keyword ∧
      hover.start = text.positionOf keyword.start ∧
      hover.start ≤ position ∧ position ≤ hover.stop ∧
      ((∃ boundary ∈ boundaries, offset < boundary.start) →
        ∃ next ∈ boundaries, offset < next.start ∧
          (∀ other ∈ boundaries, offset < other.start → next.start ≤ other.start) ∧
          ∃ front c back, text.chars = front ++ c :: back ∧
            Text.byteSize (front ++ [c]) = next.start ∧
            hover.stop = text.positionOf (Text.byteSize front)) ∧
      ((∀ boundary ∈ boundaries, boundary.start ≤ offset) → hover.stop = position) := by
  intro offset boundaries
  obtain ⟨keyword, isKeyword, isBefore, isStart, isStop⟩ := Analysis.exists_ends_of_hover isHover
  have startBefore : hover.start ≤ position := by
    rw [isStart]
    exact Position.le_trans (text.positionOf_mono isBefore) (text.positionOf_offsetOf_le position)
  refine ⟨keyword, isKeyword, isStart, startBefore, ?_⟩
  cases isFound : (Analysis.boundaries catalog (text.cutAfterLine (text.offsetOf position))).find?
      fun token => text.offsetOf position < token.start with
  | none =>
    have noneBehind := List.find?_eq_none.1 isFound
    have atPosition : hover.stop = position := by rw [isStop, isFound, Option.elim_none]
    refine ⟨by rw [atPosition]; exact Position.le_refl position, ?_, fun _ => atPosition⟩
    rintro ⟨boundary, isBoundary, isBehind⟩
    exact absurd (decide_eq_true isBehind) (noneBehind boundary isBoundary)
  | some next =>
    obtain ⟨isToken, isBoundary, isBehind, isFirst⟩ := Analysis.first_boundary isFound
    obtain ⟨notBehind, front, c, back, isText, isSize, isChar⟩ :=
      Analysis.le_char_before_token isToken isBehind
    rw [isFound, Option.elim_some] at isStop
    refine ⟨by rwa [isStop], ?_, ?_⟩
    · intro _
      exact ⟨next, isBoundary, isBehind, isFirst, front, c, back, isText, isSize,
        isStop.trans isChar⟩
    · intro noneBehind
      exact absurd isBehind (Nat.not_lt_of_le (noneBehind next isBoundary))

open Analysis in
/-- In front of the semicolon stands a character of two bytes. -/
theorem Hover.range_holds_position_in_keyword :
    let text : Text := .ofString "part é; part b;\n"
    ∃ hover, (Document.hover? ⟨some nestedParts⟩ { text := text } ⟨0, 2⟩).1 = some hover ∧
      hover.start = ⟨0, 0⟩ ∧ hover.start ≤ ⟨0, 2⟩ ∧ ⟨0, 2⟩ ≤ hover.stop ∧
      ∃ next ∈ boundaries nestedParts (text.cutAfterLine 2), 2 < next.start ∧
        (∀ other ∈ boundaries nestedParts (text.cutAfterLine 2),
          2 < other.start → next.start ≤ other.start) ∧
        ∃ front c back, text.chars = front ++ c :: back ∧
          Text.byteSize (front ++ [c]) = next.start ∧
          hover.stop = text.positionOf (Text.byteSize front) := by
  intro text
  have isSome : (Document.hover? ⟨some nestedParts⟩ { text := text } ⟨0, 2⟩).1.isSome = true := by
    decide +kernel
  obtain ⟨hover, isHover⟩ := Option.isSome_iff_exists.1 isSome
  have isKeyword : (run nestedParts text (some ⟨0, 2⟩)).cursor.keyword =
      some ⟨.identifier, "part", 0, 4⟩ := by
    decide +kernel
  have hasBoundary : ∃ boundary ∈ boundaries nestedParts (text.cutAfterLine 2),
      2 < boundary.start := by
    decide +kernel
  obtain ⟨keyword, sameKeyword, isStart, startBefore, notBehind, ofBoundary, -⟩ :=
    Hover.range_holds_position nestedParts text ⟨0, 2⟩ isHover
  obtain rfl := Option.some.inj (sameKeyword.symm.trans isKeyword)
  exact ⟨hover, isHover, isStart, startBefore, notBehind, ofBoundary hasBoundary⟩

end ConceptScript
