import ConceptScript.Proofs.Text.Cut

/-!
Contract: lines of positions and of the offsets they stand for.

A position stands for an offset on its own line, or, behind the last line, for the end of the text.
So two positions that stand for one offset lie on one line, unless they stand for the end.

Owns the last line, the line of an offset, and which positions stand for the end.

Does not own columns.
-/

set_option autoImplicit false

namespace ConceptScript.Text

/-- The number of the last line, which is also the number of line feeds. -/
def lastLine (text : Text) : Nat :=
  text.chars.count '\n'

theorem line_positionOf_le_lastLine (text : Text) (offset : Nat) :
    (text.positionOf offset).line ≤ text.lastLine := by
  unfold positionOf lastLine
  by_cases isInside : offset ≤ byteSize text.chars
  · have isAbove := line_positionAfter_le .zero isInside []
    rwa [List.append_nil, Position.zero, Nat.zero_add] at isAbove
  · have isLast : (positionAfter .zero offset text.chars).line =
        Position.zero.line + text.chars.count '\n' := by
      apply line_positionAfter_of_le
      omega
    exact Nat.le_of_eq (isLast.trans (Nat.zero_add _))

theorem line_positionAfter_bytesBefore (here : Position) (line column : Nat) (chars : List Char) :
    (positionAfter here (bytesBefore line column chars) chars).line =
      here.line + min line (chars.count '\n') := by
  fun_induction bytesBefore line column chars generalizing here with
  | case1 => simp [positionAfter]
  | case2 c rest => simp [positionAfter, Char.utf8Size_pos]
  | case3 column rest => simp [positionAfter, Char.utf8Size_pos]
  | case4 column c rest notFeed inductionHypothesis =>
    rw [positionAfter, if_neg (by omega), Nat.add_sub_cancel_left, inductionHypothesis]
    simp [Position.after, notFeed]
  | case5 line column c rest inductionHypothesis =>
    rw [positionAfter, if_neg (by omega), Nat.add_sub_cancel_left, inductionHypothesis]
    by_cases isFeed : c = '\n'
    · simp only [Position.after, isFeed, ↓reduceIte, List.count_cons_self]
      omega
    · simp [Position.after, isFeed]

theorem line_positionOf_offsetOf (text : Text) (position : Position) :
    (text.positionOf (text.offsetOf position)).line = min position.line text.lastLine := by
  unfold positionOf offsetOf lastLine
  rw [line_positionAfter_bytesBefore, Position.zero, Nat.zero_add]

theorem bytesBefore_of_count_lt
    {line : Nat} {chars : List Char} (column : Nat)
    (isBehind : chars.count '\n' < line) :
    bytesBefore line column chars = byteSize chars := by
  fun_induction bytesBefore line column chars with
  | case1 => rfl
  | case2 => omega
  | case3 => omega
  | case4 => omega
  | case5 line column c rest inductionHypothesis =>
    rw [byteSize, inductionHypothesis]
    by_cases isFeed : c = '\n'
    · simp only [isFeed, List.count_cons_self, ↓reduceIte] at isBehind ⊢
      omega
    · simpa [isFeed] using isBehind

theorem offsetOf_of_lastLine_lt
    {text : Text} {position : Position}
    (isBehind : text.lastLine < position.line) :
    text.offsetOf position = text.length :=
  bytesBefore_of_count_lt position.column isBehind

/-- Positions that stand for one offset lie on one line or stand for the end of the text. -/
theorem line_eq_or_atEnd
    {text : Text} {first second : Position}
    (sameOffset : text.offsetOf first = text.offsetOf second) :
    first.line = second.line ∨
      text.offsetOf second = text.length ∧ text.lastLine ≤ first.line ∧
        text.lastLine ≤ second.line := by
  have firstLine := line_positionOf_offsetOf text first
  have secondLine := line_positionOf_offsetOf text second
  rw [sameOffset, secondLine] at firstLine
  by_cases firstBehind : text.lastLine < first.line
  · refine .inr ⟨?_, by omega, by omega⟩
    rw [← sameOffset]
    exact offsetOf_of_lastLine_lt firstBehind
  · by_cases secondBehind : text.lastLine < second.line
    · exact .inr ⟨offsetOf_of_lastLine_lt secondBehind, by omega, by omega⟩
    · left
      omega

/-- At the end of a text nothing is cut off. -/
theorem cutAfterLine_of_atEnd
    {text : Text} {position : Position}
    (atEnd : text.offsetOf position = text.length) :
    text.cutAfterLine (text.offsetOf position) = text := by
  have isCut := cut_cutAfterLine text position
  generalize text.cutAfterLine (text.offsetOf position) = cut at isCut
  cases isCut with
  | whole => rfl
  | @behind front rest isText isLine isBefore =>
    have feedSize := byteSize_pos (List.cons_ne_nil '\n' rest)
    rw [atEnd, length, isText, byteSize_append] at isBefore
    omega

end ConceptScript.Text
