import ConceptScript.Proofs.Text.Position

/-!
Contract: the way from a position to an offset and back, which clamps.

A position divides a text in two. Where it does not exist, it stands for an earlier place, at which
its line or the text ends. The cut behind its line keeps everything in front of the division, and
behind it what is left of the line.

Owns the division of a text by a position, and what the cut text has behind it.

Does not own offsets inside of characters.
-/

set_option autoImplicit false

namespace ConceptScript

/-- The position a number of lines further down, in the given column. On the same line columns are
counted from here. -/
def Position.further (here : Position) : (line column : Nat) → Position
  | 0, column => ⟨here.line, here.column + column⟩
  | line + 1, column => ⟨here.line + line + 1, column⟩

namespace Position

theorem le_further (here : Position) (line column : Nat) : here ≤ here.further line column := by
  cases line with
  | zero => exact .inr ⟨rfl, Nat.le_add_right _ _⟩
  | succ line => exact .inl (by simp only [further]; omega)

theorem further_after_of_column
    {c : Char} (here : Position) (column : Nat)
    (notFeed : c ≠ '\n') :
    (here.after c).further 0 column = here.further 0 (column + 1) := by
  simp only [after, notFeed, ↓reduceIte, further, Position.mk.injEq, true_and]
  omega

theorem further_after_of_line (here : Position) (c : Char) (line column : Nat) :
    (here.after c).further (if c = '\n' then line else line + 1) column =
      here.further (line + 1) column := by
  by_cases isFeed : c = '\n'
  · cases line with
    | zero => simp [after, isFeed, further]
    | succ line =>
      simp only [after, isFeed, ↓reduceIte, further, Position.mk.injEq, and_true]
      omega
  · simp [after, isFeed, further]

end Position

namespace Text

/-! ## Division by a position -/

/-- The characters in front of the offset that a position stands for, and those behind it. A
position that does not exist stands for the end of its line or of the text. -/
structure Divides (text : Text) (position : Position) (front back : List Char) : Prop where
  isText : text.chars = front ++ back
  isOffset : byteSize front = text.offsetOf position
  isPlace : front.foldl Position.after .zero = position ∨
    front.foldl Position.after .zero ≤ position ∧ ∀ c ∈ back.head?, c = '\n'

theorem exists_front_of_bytesBefore (here : Position) (line column : Nat) (chars : List Char) :
    ∃ front back, chars = front ++ back ∧ byteSize front = bytesBefore line column chars ∧
      (front.foldl Position.after here = here.further line column ∨
        front.foldl Position.after here ≤ here.further line column ∧
          ∀ c ∈ back.head?, c = '\n') := by
  fun_induction bytesBefore line column chars generalizing here with
  | case1 line column =>
    exact ⟨[], [], rfl, rfl, .inr ⟨here.le_further line column, by simp⟩⟩
  | case2 c rest => exact ⟨[], c :: rest, rfl, rfl, .inl rfl⟩
  | case3 column rest =>
    exact ⟨[], '\n' :: rest, rfl, rfl, .inr ⟨here.le_further 0 (column + 1), by simp⟩⟩
  | case4 column c rest notFeed inductionHypothesis =>
    obtain ⟨front, back, isRest, isOffset, isPlace⟩ := inductionHypothesis (here.after c)
    rw [Position.further_after_of_column here column notFeed] at isPlace
    exact ⟨c :: front, back, by rw [isRest]; rfl, by rw [byteSize, isOffset], isPlace⟩
  | case5 line column c rest inductionHypothesis =>
    obtain ⟨front, back, isRest, isOffset, isPlace⟩ := inductionHypothesis (here.after c)
    rw [Position.further_after_of_line here c line column] at isPlace
    exact ⟨c :: front, back, by rw [isRest]; rfl, by rw [byteSize, isOffset], isPlace⟩

theorem exists_divides (text : Text) (position : Position) :
    ∃ front back, Divides text position front back := by
  obtain ⟨line, column⟩ := position
  obtain ⟨front, back, isText, isOffset, isPlace⟩ :=
    exists_front_of_bytesBefore .zero line column text.chars
  have isPosition : Position.zero.further line column = ⟨line, column⟩ := by
    cases line <;> simp [Position.further, Position.zero]
  rw [isPosition] at isPlace
  exact ⟨front, back, isText, isOffset, isPlace⟩

/-! ## The cut text -/

theorem throughLineOf_byteSize (front back : List Char) :
    throughLineOf (byteSize front) (front ++ back) = front ++ throughLineFeed back := by
  rw [← Nat.add_zero (byteSize front), throughLineOf_below]
  cases back with
  | nil => rfl
  | cons c back => rw [throughLineOf, if_pos (Char.utf8Size_pos c)]

/-- What is left of a line, and the line feed behind it. -/
theorem exists_line_of_throughLineFeed (chars : List Char) :
    ∃ line feed rest, chars = line ++ (feed ++ rest) ∧ throughLineFeed chars = line ++ feed ∧
      '\n' ∉ line ∧ byteSize feed ≤ 1 := by
  induction chars with
  | nil => exact ⟨[], [], [], rfl, rfl, List.not_mem_nil, Nat.zero_le 1⟩
  | cons c chars inductionHypothesis =>
    by_cases isFeed : c = '\n'
    · subst isFeed
      exact ⟨[], ['\n'], chars, rfl, rfl, List.not_mem_nil, Nat.le_refl 1⟩
    · obtain ⟨line, feed, rest, isChars, isThrough, noFeed, feedSize⟩ := inductionHypothesis
      refine ⟨c :: line, feed, rest, by rw [isChars]; rfl, ?_, ?_, feedSize⟩
      · rw [throughLineFeed, if_neg isFeed, isThrough, List.cons_append]
      · exact List.not_mem_cons_of_ne_of_not_mem (Ne.symm isFeed) noFeed

namespace Divides

variable {text : Text} {position : Position} {front back : List Char}

theorem positionOf_offsetOf (divides : Divides text position front back) :
    text.positionOf (text.offsetOf position) = front.foldl Position.after .zero := by
  rw [positionOf, divides.isText, ← divides.isOffset, positionAfter_byteSize]

theorem chars_cutAfterLine (divides : Divides text position front back) :
    (text.cutAfterLine (text.offsetOf position)).chars = front ++ throughLineFeed back := by
  rw [cutAfterLine, ← divides.isOffset, divides.isText, throughLineOf_byteSize]

end Divides

theorem positionOf_offsetOf_le (text : Text) (position : Position) :
    text.positionOf (text.offsetOf position) ≤ position := by
  obtain ⟨front, back, divides⟩ := text.exists_divides position
  rw [divides.positionOf_offsetOf]
  rcases divides.isPlace with isSame | ⟨isBefore, -⟩
  · rw [isSame]
    exact Position.le_refl position
  · exact isBefore

/-- A position in front of which the cut text does not end yet, nor just with a line feed, exists. -/
theorem positionOf_offsetOf_of_inside
    {text : Text} {position : Position}
    (goesOn : text.offsetOf position + 1 < (text.cutAfterLine (text.offsetOf position)).length) :
    text.positionOf (text.offsetOf position) = position := by
  obtain ⟨front, back, divides⟩ := text.exists_divides position
  rw [divides.positionOf_offsetOf]
  rcases divides.isPlace with isSame | ⟨-, atEnd⟩
  · exact isSame
  · rw [length, divides.chars_cutAfterLine, byteSize_append, divides.isOffset] at goesOn
    cases back with
    | nil =>
      have nothing : byteSize (throughLineFeed []) = 0 := rfl
      omega
    | cons c back =>
      obtain rfl := atEnd c rfl
      have onlyFeed : byteSize (throughLineFeed ('\n' :: back)) = 1 := rfl
      omega

/-- Nothing in the cut text lies below the line of the position. -/
theorem line_positionOf_le_of_inside
    {text : Text} {position : Position} {offset : Nat}
    (inside : offset < (text.cutAfterLine (text.offsetOf position)).length) :
    (text.positionOf offset).line ≤ position.line := by
  obtain ⟨front, back, divides⟩ := text.exists_divides position
  obtain ⟨line, feed, rest, isBack, isThrough, noFeed, feedSize⟩ :=
    exists_line_of_throughLineFeed back
  have beforeFeed : offset ≤ byteSize (front ++ line) := by
    rw [length, divides.chars_cutAfterLine, isThrough, ← List.append_assoc,
      byteSize_append _ feed] at inside
    omega
  have isAbove := line_positionAfter_le .zero beforeFeed (feed ++ rest)
  rw [List.append_assoc, ← isBack, ← divides.isText, List.count_append,
    List.count_eq_zero_of_not_mem noFeed, Nat.add_zero] at isAbove
  have isClamped := Position.line_le (text.positionOf_offsetOf_le position)
  rw [divides.positionOf_offsetOf, line_foldl_after] at isClamped
  exact Nat.le_trans isAbove isClamped

end Text

end ConceptScript
