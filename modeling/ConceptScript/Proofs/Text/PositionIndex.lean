import ConceptScript.Proofs.Text.Clamp
import ConceptScript.Proofs.Token.Tiling
import Mathlib.Order.Bounds.Basic
import Mathlib.Order.Monotone.Basic

/-!
Contract: offsets and positions name the same places of a text.

An offset is rounded down to the place in front of a character, a position back to the end of its
line or of the text. On the places that are left the two maps undo each other and keep the order.

Owns induction by lines, where a position that does not exist lies, and the laws of both maps.

Does not own columns in UTF-16 units.
-/

set_option autoImplicit false

namespace ConceptScript

/-! ## Positions as an order -/

namespace Position

theorem le_antisymm
    {first second : Position}
    (isBefore : first ≤ second)
    (isBehind : second ≤ first) :
    first = second := by
  obtain ⟨line, column⟩ := first
  obtain ⟨otherLine, otherColumn⟩ := second
  simp only [le_def] at isBefore isBehind
  rw [Position.mk.injEq]
  omega

end Position

/-- The reading order, for what the library says about monotone maps. -/
local instance readingOrder : PartialOrder Position where
  le_refl := Position.le_refl
  le_trans _ _ _ := Position.le_trans
  le_antisymm _ _ := Position.le_antisymm

namespace Text

/-! ## Induction by lines -/

/-- Characters are a last line, or a line, its line feed and characters again. -/
@[elab_as_elim]
theorem line_induction
    {motive : List Char → Prop}
    (last : ∀ line, '\n' ∉ line → motive line)
    (ended : ∀ line rest, '\n' ∉ line → motive rest → motive (line ++ '\n' :: rest))
    (chars : List Char) :
    motive chars := by
  by_cases hasFeed : '\n' ∈ chars
  · obtain ⟨line, rest, isChars, noFeed⟩ := List.eq_append_cons_of_mem hasFeed
    have isShorter : rest.length < chars.length := by
      rw [isChars, List.length_append, List.length_cons]
      omega
    rw [isChars]
    exact ended line rest noFeed (line_induction last ended rest)
  · exact last chars hasFeed
termination_by chars.length

theorem count_of_ended
    {line : List Char}
    (noFeed : '\n' ∉ line) (rest : List Char) :
    (line ++ '\n' :: rest).count '\n' = rest.count '\n' + 1 := by
  rw [List.count_append, List.count_eq_zero_of_not_mem noFeed, List.count_cons_self, Nat.zero_add]

theorem splitLines_of_last
    {line : List Char}
    (noFeed : '\n' ∉ line) :
    splitLines line = [line] := by
  induction line with
  | nil => rfl
  | cons c line inductionHypothesis =>
    rw [List.mem_cons, not_or] at noFeed
    rw [splitLines, if_neg (Ne.symm noFeed.1), inductionHypothesis noFeed.2]

theorem splitLines_of_ended
    {line : List Char}
    (noFeed : '\n' ∉ line) (rest : List Char) :
    splitLines (line ++ '\n' :: rest) = line :: splitLines rest := by
  induction line with
  | nil => rfl
  | cons c line inductionHypothesis =>
    rw [List.mem_cons, not_or] at noFeed
    rw [List.cons_append, splitLines, if_neg (Ne.symm noFeed.1), inductionHypothesis noFeed.2]

theorem length_splitLines (chars : List Char) :
    (splitLines chars).length = chars.count '\n' + 1 := by
  induction chars using line_induction with
  | last line noFeed =>
    rw [splitLines_of_last noFeed, List.count_eq_zero_of_not_mem noFeed, List.length_singleton]
  | ended line rest noFeed inductionHypothesis =>
    rw [splitLines_of_ended noFeed, List.length_cons, inductionHypothesis, count_of_ended noFeed]

theorem noFeed_of_mem_splitLines
    {chars line : List Char}
    (isLine : line ∈ splitLines chars) :
    '\n' ∉ line := by
  induction chars using line_induction with
  | last only noFeed =>
    rw [splitLines_of_last noFeed, List.mem_singleton] at isLine
    rwa [isLine]
  | ended first rest noFeed inductionHypothesis =>
    rw [splitLines_of_ended noFeed, List.mem_cons] at isLine
    rcases isLine with rfl | isLater
    · exact noFeed
    · exact inductionHypothesis isLater

theorem intercalate_splitLines (chars : List Char) :
    ['\n'].intercalate (splitLines chars) = chars := by
  induction chars using line_induction with
  | last line noFeed => rw [splitLines_of_last noFeed, List.intercalate_singleton]
  | ended line rest noFeed inductionHypothesis =>
    have notEmpty : splitLines rest ≠ [] := by
      apply List.ne_nil_of_length_pos
      rw [length_splitLines]
      omega
    rw [splitLines_of_ended noFeed, List.intercalate_cons_of_ne_nil notEmpty, inductionHypothesis,
      List.append_assoc, List.singleton_append]

/-! ## From a position to an offset and back -/

/-- On the first line there are the bytes of its first columns. -/
theorem bytesBefore_on_line
    {line back : List Char} (column : Nat)
    (noFeed : '\n' ∉ line)
    (ends : ∀ c ∈ back.head?, c = '\n') :
    bytesBefore 0 column (line ++ back) = byteSize (line.take column) := by
  induction line generalizing column with
  | nil =>
    cases back with
    | nil => cases column <;> rfl
    | cons c back =>
      obtain rfl := ends c rfl
      cases column <;> rfl
  | cons c line inductionHypothesis =>
    rw [List.mem_cons, not_or] at noFeed
    cases column with
    | zero => rfl
    | succ column =>
      rw [List.cons_append, bytesBefore, if_neg (Ne.symm noFeed.1),
        inductionHypothesis column noFeed.2, List.take_succ_cons, byteSize]

theorem bytesBefore_below_line
    {line : List Char} (number column : Nat)
    (noFeed : '\n' ∉ line) (rest : List Char) :
    bytesBefore (number + 1) column (line ++ '\n' :: rest) =
      byteSize (line ++ ['\n']) + bytesBefore number column rest := by
  rw [← bytesBefore_below, List.count_eq_zero_of_not_mem noFeed, Nat.zero_add]

/-- The end of the last line. -/
def lastPosition (text : Text) : Position :=
  ⟨text.lastLine, (text.lineChars text.lastLine).length⟩

/-- The position that a position stands for: itself, or else the end of its line or of the text. -/
def clamp (text : Text) (position : Position) : Position :=
  match text.line? position.line with
  | some line => ⟨position.line, min position.column line.length⟩
  | none => text.lastPosition

/-- A column of a line that starts here, counted no further than to the end of the line. -/
theorem positionAfter_on_line
    {line back : List Char} (number column : Nat)
    (noFeed : '\n' ∉ line)
    (ends : ∀ c ∈ back.head?, c = '\n') :
    positionAfter ⟨number, 0⟩ (bytesBefore 0 column (line ++ back)) (line ++ back) =
      ⟨number, min column line.length⟩ := by
  have noFeedTaken : '\n' ∉ line.take column := by
    intro isTaken
    exact noFeed (List.mem_of_mem_take isTaken)
  have isDivided : line ++ back = line.take column ++ (line.drop column ++ back) := by
    rw [← List.append_assoc, List.take_append_drop]
  rw [bytesBefore_on_line column noFeed ends, isDivided, positionAfter_byteSize,
    foldl_after_of_line _ noFeedTaken, List.length_take, Nat.zero_add]

theorem foldl_after_ended
    {line : List Char} (here : Position)
    (noFeed : '\n' ∉ line) :
    (line ++ ['\n']).foldl Position.after here = ⟨here.line + 1, 0⟩ := by
  rw [List.foldl_append, foldl_after_of_line here noFeed, List.foldl_cons, List.foldl_nil,
    Position.after, if_pos rfl]

theorem positionAfter_bytesBefore_of_line
    {chars line : List Char} {number : Nat} (first column : Nat)
    (isLine : (splitLines chars)[number]? = some line) :
    positionAfter ⟨first, 0⟩ (bytesBefore number column chars) chars =
      ⟨first + number, min column line.length⟩ := by
  induction chars using line_induction generalizing first number with
  | last only noFeed =>
    rw [splitLines_of_last noFeed, List.getElem?_singleton] at isLine
    split at isLine
    · next isFirst =>
      cases isLine
      have nothingBehind : ∀ c ∈ ([] : List Char).head?, c = '\n' := by simp
      have onLine := positionAfter_on_line first column noFeed nothingBehind
      rw [List.append_nil] at onLine
      rw [isFirst, onLine, Nat.add_zero]
    · cases isLine
  | ended above rest noFeed inductionHypothesis =>
    rw [splitLines_of_ended noFeed] at isLine
    cases number with
    | zero =>
      cases isLine
      exact positionAfter_on_line first column noFeed (by simp)
    | succ number =>
      rw [List.getElem?_cons_succ] at isLine
      rw [bytesBefore_below_line number column noFeed, List.append_cons above '\n' rest,
        positionAfter_add, foldl_after_ended _ noFeed, inductionHypothesis (first + 1) isLine,
        Nat.add_assoc, Nat.add_comm 1]

theorem positionOf_offsetOf_of_line
    {text : Text} {position : Position} {line : List Char}
    (isLine : text.line? position.line = some line) :
    text.positionOf (text.offsetOf position) =
      ⟨position.line, min position.column line.length⟩ := by
  rw [positionOf, offsetOf, Position.zero, positionAfter_bytesBefore_of_line 0 _ isLine,
    Nat.zero_add]

theorem line?_eq_none_iff (text : Text) (number : Nat) :
    text.line? number = none ↔ text.lastLine < number := by
  rw [line?, List.getElem?_eq_none_iff, lines, length_splitLines, lastLine]
  omega

theorem le_lastLine_of_line?
    {text : Text} {number : Nat} {line : List Char}
    (isLine : text.line? number = some line) :
    number ≤ text.lastLine := by
  apply Nat.le_of_not_lt
  rw [← line?_eq_none_iff, isLine]
  exact Option.some_ne_none line

/-- The place behind all characters. -/
theorem foldl_after_last (first : Nat) (chars : List Char) :
    chars.foldl Position.after ⟨first, 0⟩ =
      ⟨first + chars.count '\n', ((splitLines chars)[chars.count '\n']?.getD []).length⟩ := by
  induction chars using line_induction generalizing first with
  | last line noFeed =>
    rw [foldl_after_of_line _ noFeed, splitLines_of_last noFeed,
      List.count_eq_zero_of_not_mem noFeed, Nat.zero_add]
    rfl
  | ended line rest noFeed inductionHypothesis =>
    rw [count_of_ended noFeed, splitLines_of_ended noFeed, List.getElem?_cons_succ,
      List.append_cons, List.foldl_append, foldl_after_ended _ noFeed, inductionHypothesis,
      Nat.add_assoc, Nat.add_comm 1]

theorem positionOf_length (text : Text) :
    text.positionOf text.length = text.lastPosition := by
  have atEnd := positionAfter_byteSize .zero text.chars []
  rw [List.append_nil, Position.zero, foldl_after_last, Nat.zero_add] at atEnd
  exact atEnd

theorem positionOf_offsetOf_eq_clamp (text : Text) (position : Position) :
    text.positionOf (text.offsetOf position) = text.clamp position := by
  unfold clamp
  split
  · next line isLine => exact positionOf_offsetOf_of_line isLine
  · next noLine =>
    rw [offsetOf_of_lastLine_lt ((text.line?_eq_none_iff position.line).1 noLine),
      positionOf_length]

theorem isOnLine_clamp (text : Text) (position : Position) :
    text.IsOnLine (text.clamp position) := by
  unfold clamp
  split
  · next line isLine =>
    rw [IsOnLine, lineChars, isLine]
    exact Nat.min_le_right _ _
  · exact Nat.le_refl _

theorem isOnLine_positionOf
    {text : Text} {offset : Nat}
    (isBoundary : text.IsBoundary offset) :
    text.IsOnLine (text.positionOf offset) := by
  have isClamped := text.positionOf_offsetOf_eq_clamp (text.positionOf offset)
  rw [offsetOf_positionOf isBoundary] at isClamped
  rw [isClamped]
  exact text.isOnLine_clamp _

/-! ## Order -/

theorem clamp_le_lastPosition (text : Text) (position : Position) :
    text.clamp position ≤ text.lastPosition := by
  unfold clamp
  split
  · next line isLine =>
    rcases Nat.lt_or_eq_of_le (le_lastLine_of_line? isLine) with isAbove | isLast
    · exact .inl isAbove
    · refine .inr ⟨isLast, ?_⟩
      rw [lastPosition, lineChars, ← isLast, isLine]
      exact Nat.min_le_right _ _
  · exact le_rfl

theorem clamp_mono (text : Text) : Monotone text.clamp := by
  intro earlier later isOrdered
  cases isLine : text.line? later.line with
  | none =>
    have isLast : text.clamp later = text.lastPosition := by rw [clamp, isLine]
    rw [isLast]
    exact text.clamp_le_lastPosition earlier
  | some line =>
    have laterInside := le_lastLine_of_line? isLine
    have notBelow := Position.line_le isOrdered
    -- Above a line that exists all lines do.
    obtain ⟨other, isOther⟩ : ∃ other, text.line? earlier.line = some other := by
      rw [← Option.ne_none_iff_exists', ne_eq, line?_eq_none_iff]
      omega
    rw [clamp, clamp, isLine, isOther]
    rcases isOrdered with isAbove | ⟨sameLine, isBefore⟩
    · exact .inl isAbove
    · rw [sameLine, isLine] at isOther
      cases isOther
      refine .inr ⟨sameLine, ?_⟩
      show min earlier.column line.length ≤ min later.column line.length
      omega

theorem isBoundary_offsetOf (text : Text) (position : Position) :
    text.IsBoundary (text.offsetOf position) := by
  obtain ⟨front, back, divides⟩ := text.exists_divides position
  exact ⟨front, back, divides.isText, divides.isOffset⟩

theorem positionOf_strictMonoOn (text : Text) :
    StrictMonoOn text.positionOf {offset | text.IsBoundary offset} := by
  intro offset isBoundary later isLaterBoundary isLater
  apply lt_of_le_of_ne (text.positionOf_mono isLater.le)
  intro samePosition
  have sameOffset := congrArg text.offsetOf samePosition
  rw [offsetOf_positionOf isBoundary, offsetOf_positionOf isLaterBoundary] at sameOffset
  exact isLater.ne sameOffset

theorem offsetOf_mono (text : Text) : Monotone text.offsetOf := by
  intro earlier later isOrdered
  by_contra isBehind
  have isAfter := text.positionOf_strictMonoOn (text.isBoundary_offsetOf later)
    (text.isBoundary_offsetOf earlier) (not_le.1 isBehind)
  rw [positionOf_offsetOf_eq_clamp, positionOf_offsetOf_eq_clamp] at isAfter
  exact lt_irrefl _ (isAfter.trans_le (text.clamp_mono isOrdered))

/-! ## From an offset to a position and back -/

/-- An offset stands for the place in front of the character that it lies in. -/
theorem exists_front_of_positionAfter (here : Position) (offset : Nat) (chars : List Char) :
    ∃ front back, chars = front ++ back ∧ byteSize front ≤ offset ∧
      positionAfter here offset chars = front.foldl Position.after here ∧
      ∀ c ∈ back.head?, offset < byteSize front + c.utf8Size := by
  fun_induction positionAfter here offset chars with
  | case1 offset here => exact ⟨[], [], rfl, Nat.zero_le _, rfl, by simp⟩
  | case2 here offset c rest isInside =>
    exact ⟨[], c :: rest, rfl, Nat.zero_le offset, rfl, by simpa [byteSize] using isInside⟩
  | case3 here offset c rest isBehind inductionHypothesis =>
    obtain ⟨front, back, isRest, isBefore, isPlace, isInside⟩ := inductionHypothesis
    refine ⟨c :: front, back, by rw [isRest]; rfl, ?_, isPlace, ?_⟩
    · rw [byteSize]
      omega
    · intro next isNext
      have isBefore := isInside next isNext
      rw [byteSize]
      omega

theorem isGreatest_offsetOf_positionOf (text : Text) (offset : Nat) :
    IsGreatest {boundary | text.IsBoundary boundary ∧ boundary ≤ min offset text.length}
      (text.offsetOf (text.positionOf offset)) := by
  obtain ⟨front, back, isText, isBefore, isPlace, isInside⟩ :=
    exists_front_of_positionAfter .zero offset text.chars
  have isBoundary : text.IsBoundary (byteSize front) := ⟨front, back, isText, rfl⟩
  have samePosition : text.positionOf offset = text.positionOf (byteSize front) := by
    rw [positionOf, isPlace, positionOf, isText, positionAfter_byteSize]
  rw [samePosition, offsetOf_positionOf isBoundary]
  constructor
  · have isSize : text.length = byteSize front + byteSize back := by
      rw [length, isText, byteSize_append]
    exact ⟨isBoundary, le_min isBefore (by omega)⟩
  · rintro boundary ⟨⟨other, behind, isOther, rfl⟩, isBelow⟩
    -- A boundary behind the front would have the next character in front of it.
    by_contra isBehind
    obtain ⟨between, rfl, isBack⟩ :=
      exists_append_of_byteSize_le (isOther.symm.trans isText) (Nat.le_of_not_le isBehind)
    rw [byteSize_append] at isBehind isBelow
    cases between with
    | nil => exact isBehind (Nat.le_refl _)
    | cons c between =>
      have isNext := isInside c (by rw [isBack]; rfl)
      rw [byteSize] at isBelow
      omega

/-- **Offsets and positions.** An offset comes back from its position rounded down to the place in
front of a character, and a position from its offset as the place it stands for. Both maps keep the
order, and between characters no two offsets share a position. The lines, joined by line feeds, are
the text. -/
theorem offsets_and_positions_agree (text : Text) :
    (∀ offset, IsGreatest
        {boundary | text.IsBoundary boundary ∧ boundary ≤ min offset text.length}
        (text.offsetOf (text.positionOf offset))) ∧
      (∀ position, text.positionOf (text.offsetOf position) = text.clamp position) ∧
      Monotone text.positionOf ∧
      Monotone text.offsetOf ∧
      StrictMonoOn text.positionOf {offset | text.IsBoundary offset} ∧
      ∃ lines : List (List Char),
        (∀ number, text.line? number = lines[number]?) ∧
        (∀ line ∈ lines, '\n' ∉ line) ∧
        ['\n'].intercalate lines = text.chars := by
  refine ⟨text.isGreatest_offsetOf_positionOf, text.positionOf_offsetOf_eq_clamp, ?_,
    text.offsetOf_mono, text.positionOf_strictMonoOn, text.lines, ?_, ?_, ?_⟩
  · intro offset later isLater
    exact text.positionOf_mono isLater
  · intro number
    rfl
  · intro line isLine
    exact noFeed_of_mem_splitLines isLine
  · exact intercalate_splitLines text.chars

end Text

end ConceptScript
