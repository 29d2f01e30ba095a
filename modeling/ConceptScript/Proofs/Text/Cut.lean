import ConceptScript.Text.Basic

/-!
Contract: the cut behind the line of a position.

Owns that a cut text is the whole text or its first lines up to and including that of the position,
that the position stands for the same offset in both, and which offsets lie on its line or above.

Does not own what is cut out of tokens.
-/

set_option autoImplicit false

namespace ConceptScript.Text

/-! ## Sizes -/

theorem byteSize_pos
    {chars : List Char}
    (notEmpty : chars ≠ []) :
    0 < byteSize chars := by
  cases chars with
  | nil => exact absurd rfl notEmpty
  | cons c rest =>
    have charSize := Char.utf8Size_pos c
    simp only [byteSize]
    omega

/-! ## Offsets -/

/-- A line that is ended by a line feed is looked at no further than that. -/
theorem bytesBefore_append
    {line : Nat} {front : List Char}
    (isLine : front.count '\n' = line) (column : Nat) (rest : List Char) :
    bytesBefore line column (front ++ '\n' :: rest) =
      bytesBefore line column (front ++ ['\n']) := by
  induction front generalizing line column with
  | nil =>
    obtain rfl : 0 = line := by simpa using isLine
    cases column <;> simp [bytesBefore]
  | cons c front inductionHypothesis =>
    rw [List.count_cons] at isLine
    by_cases isFeed : c = '\n'
    · subst isFeed
      obtain rfl : front.count '\n' + 1 = line := by simpa using isLine
      simp [bytesBefore, inductionHypothesis rfl]
    · have isLater : front.count '\n' = line := by simpa [isFeed] using isLine
      cases line with
      | zero =>
        cases column with
        | zero => simp [bytesBefore]
        | succ column => simp [bytesBefore, isFeed, inductionHypothesis isLater]
      | succ line => simp [bytesBefore, isFeed, inductionHypothesis isLater]

theorem throughLineFeed_cases (chars : List Char) :
    throughLineFeed chars = chars ∨
      ∃ front rest, chars = front ++ '\n' :: rest ∧
        throughLineFeed chars = front ++ ['\n'] ∧ front.count '\n' = 0 := by
  induction chars with
  | nil => exact .inl rfl
  | cons c chars inductionHypothesis =>
    by_cases isFeed : c = '\n'
    · subst isFeed
      exact .inr ⟨[], chars, rfl, by simp [throughLineFeed], rfl⟩
    · rcases inductionHypothesis with whole | ⟨front, rest, isChars, isCut, isLine⟩
      · exact .inl (by simp [throughLineFeed, isFeed, whole])
      · refine .inr ⟨c :: front, rest, by simp [isChars], by simp [throughLineFeed, isFeed, isCut], ?_⟩
        simpa [List.count_cons, isFeed] using isLine

theorem throughLineOf_add
    (c : Char) (offset : Nat) (rest : List Char) :
    throughLineOf (c.utf8Size + offset) (c :: rest) = c :: throughLineOf offset rest := by
  have isBehind : ¬ c.utf8Size + offset < c.utf8Size := by omega
  rw [throughLineOf, if_neg isBehind, Nat.add_sub_cancel_left]

theorem throughLineOf_below (front : List Char) (offset : Nat) (back : List Char) :
    throughLineOf (byteSize front + offset) (front ++ back) =
      front ++ throughLineOf offset back := by
  induction front with
  | nil => rw [byteSize, Nat.zero_add, List.nil_append, List.nil_append]
  | cons c front inductionHypothesis =>
    rw [List.cons_append, byteSize, Nat.add_assoc, throughLineOf_add, inductionHypothesis,
      List.cons_append]

/-- The cut keeps everything, or it ends with the line feed of the line. -/
theorem throughLineOf_cases (line column : Nat) (chars : List Char) :
    throughLineOf (bytesBefore line column chars) chars = chars ∨
      ∃ front rest, chars = front ++ '\n' :: rest ∧
        throughLineOf (bytesBefore line column chars) chars = front ++ ['\n'] ∧
        front.count '\n' = line ∧ bytesBefore line column chars ≤ byteSize front := by
  fun_induction bytesBefore line column chars with
  | case1 => exact .inl rfl
  | case2 c rest =>
    have isCut : throughLineOf 0 (c :: rest) = throughLineFeed (c :: rest) := by
      simp [throughLineOf, Char.utf8Size_pos]
    rw [isCut]
    rcases throughLineFeed_cases (c :: rest) with whole | ⟨front, later, isChars, isFed, isLine⟩
    · exact .inl whole
    · exact .inr ⟨front, later, isChars, isFed, isLine, Nat.zero_le _⟩
  | case3 column rest =>
    refine .inr ⟨[], rest, rfl, ?_, rfl, Nat.le_refl _⟩
    simp [throughLineOf, throughLineFeed, Char.utf8Size_pos]
  | case4 column c rest notFeed inductionHypothesis =>
    rw [throughLineOf_add]
    rcases inductionHypothesis with whole | ⟨front, later, isChars, isCut, isLine, isBefore⟩
    · exact .inl (by rw [whole])
    · refine .inr ⟨c :: front, later, by simp [isChars], by simp [isCut], ?_, ?_⟩
      · simpa [List.count_cons, notFeed] using isLine
      · simpa [byteSize] using isBefore
  | case5 line column c rest inductionHypothesis =>
    rw [throughLineOf_add]
    rcases inductionHypothesis with whole | ⟨front, later, isChars, isCut, isLine, isBefore⟩
    · exact .inl (by rw [whole])
    · refine .inr ⟨c :: front, later, by simp [isChars], by simp [isCut], ?_, ?_⟩
      · by_cases isFeed : c = '\n' <;> simp_all
      · simpa [byteSize] using isBefore

/-! ## Cut texts -/

/-- How a text cut behind the line of a position lies in the whole text. -/
inductive Cut (text : Text) (position : Position) : Text → Prop where
  /-- Nothing is cut off. -/
  | whole : Cut text position text
  /-- The line of the position ends in a line feed, and that is the end of the cut text. -/
  | behind {front rest : List Char}
      (isText : text.chars = front ++ '\n' :: rest)
      (isLine : front.count '\n' = position.line)
      (isBefore : text.offsetOf position ≤ byteSize front) :
      Cut text position ⟨front ++ ['\n']⟩

theorem cut_cutAfterLine (text : Text) (position : Position) :
    Cut text position (text.cutAfterLine (text.offsetOf position)) := by
  rcases throughLineOf_cases position.line position.column text.chars with
    whole | ⟨front, rest, isText, isCut, isLine, isBefore⟩
  · have same : text.cutAfterLine (text.offsetOf position) = text := by
      simp only [cutAfterLine, offsetOf, whole]
    rw [same]
    exact .whole
  · have same : text.cutAfterLine (text.offsetOf position) = ⟨front ++ ['\n']⟩ := by
      simp only [cutAfterLine, offsetOf, isCut]
    rw [same]
    exact .behind isText isLine isBefore

namespace Cut

variable {text cut : Text} {position : Position}

theorem offsetOf_eq (isCut : Cut text position cut) :
    cut.offsetOf position = text.offsetOf position := by
  cases isCut with
  | whole => rfl
  | behind isText isLine isBefore =>
    simp only [offsetOf, isText]
    exact (bytesBefore_append isLine position.column _).symm

/-- What is cut off; in front of it stands a line feed that the position lies in front of. -/
theorem exists_append (isCut : Cut text position cut) :
    ∃ rest, text.chars = cut.chars ++ rest ∧
      (rest = [] ∨ cut.chars.getLast? = some '\n' ∧ text.offsetOf position < cut.length) := by
  cases isCut with
  | whole => exact ⟨[], by simp⟩
  | @behind front rest isText isLine isBefore =>
    refine ⟨rest, by simp [isText], .inr ⟨by simp, ?_⟩⟩
    have feedSize := byteSize_pos (List.cons_ne_nil '\n' [])
    simp only [length, byteSize_append]
    omega

end Cut

/-! ## Lines of offsets -/

theorem positionAfter_append
    (here : Position) {offset : Nat} {front : List Char}
    (inside : offset < byteSize front) (back : List Char) :
    positionAfter here offset (front ++ back) = positionAfter here offset front := by
  induction front generalizing here offset with
  | nil => exact absurd inside (Nat.not_lt_zero offset)
  | cons c front inductionHypothesis =>
    rw [List.cons_append, positionAfter, positionAfter]
    split
    · rfl
    · next notHere =>
      apply inductionHypothesis
      simp only [byteSize] at inside
      omega

theorem Position.line_after (here : Position) (c : Char) :
    (here.after c).line = here.line + [c].count '\n' := by
  by_cases isFeed : c = '\n'
  · simp [Position.after, isFeed]
  · simp [Position.after, isFeed]

/-- An offset up to the end of some characters lies on none of the lines behind them. -/
theorem line_positionAfter_le
    (here : Position) {offset : Nat} {front : List Char}
    (inside : offset ≤ byteSize front) (back : List Char) :
    (positionAfter here offset (front ++ back)).line ≤ here.line + front.count '\n' := by
  induction front generalizing here offset with
  | nil =>
    obtain rfl : offset = 0 := by simpa [byteSize] using inside
    cases back with
    | nil => simp [positionAfter]
    | cons c back => simp [positionAfter, Char.utf8Size_pos]
  | cons c front inductionHypothesis =>
    rw [List.cons_append, positionAfter]
    split
    · exact Nat.le_add_right _ _
    · have insideRest : offset - c.utf8Size ≤ byteSize front := by
        simp only [byteSize] at inside
        omega
      have later := inductionHypothesis (here.after c) insideRest
      rw [Position.line_after] at later
      simp only [List.count_cons, List.count_nil] at later ⊢
      omega

theorem line_positionAfter_of_le
    (here : Position) {offset : Nat} {chars : List Char}
    (behind : byteSize chars ≤ offset) :
    (positionAfter here offset chars).line = here.line + chars.count '\n' := by
  induction chars generalizing here offset with
  | nil => simp [positionAfter]
  | cons c chars inductionHypothesis =>
    simp only [byteSize] at behind
    rw [positionAfter, if_neg (by omega), inductionHypothesis _ (by omega),
      Position.line_after]
    simp only [List.count_cons, List.count_nil]
    omega

/-- In a text that ends in a line feed, the offsets in the text are those in front of the last
line. -/
theorem line_positionOf_le_iff (front : List Char) (offset : Nat) :
    ((⟨front ++ ['\n']⟩ : Text).positionOf offset).line ≤ front.count '\n' ↔
      offset < (⟨front ++ ['\n']⟩ : Text).length := by
  have feedSize : byteSize ['\n'] = 1 := by decide
  simp only [positionOf, length, byteSize_append, feedSize]
  constructor
  · intro isAbove
    apply Nat.lt_of_not_le
    intro isBehind
    have isLast : (positionAfter .zero offset (front ++ ['\n'])).line =
        0 + (front ++ ['\n']).count '\n' := by
      apply line_positionAfter_of_le
      rwa [byteSize_append, feedSize]
    rw [isLast, List.count_append, List.count_singleton_self] at isAbove
    omega
  · intro isInside
    have isAbove := line_positionAfter_le .zero (Nat.le_of_lt_succ isInside) ['\n']
    rwa [Position.zero, Nat.zero_add] at isAbove

end ConceptScript.Text
