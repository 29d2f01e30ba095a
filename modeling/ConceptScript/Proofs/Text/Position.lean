import ConceptScript.Proofs.Text.Line

/-!
Contract: the way from an offset to a position and back.

A later offset never has an earlier position, also where columns count UTF-16 units. An offset
between two characters is got back from its position, and a column from its units.

Owns the reading order of positions and both round trips.

Does not own the way from a position to an offset and back, which clamps.
-/

set_option autoImplicit false

namespace ConceptScript

/-! ## Reading order -/

namespace Position

/-- Positions are read line by line. -/
instance : LE Position :=
  ⟨fun earlier later =>
    earlier.line < later.line ∨ earlier.line = later.line ∧ earlier.column ≤ later.column⟩

theorem le_def (earlier later : Position) :
    earlier ≤ later ↔
      earlier.line < later.line ∨ earlier.line = later.line ∧ earlier.column ≤ later.column :=
  Iff.rfl

instance (earlier later : Position) : Decidable (earlier ≤ later) :=
  decidable_of_iff _ (le_def earlier later).symm

theorem le_refl (position : Position) : position ≤ position :=
  .inr ⟨rfl, Nat.le_refl _⟩

theorem le_trans
    {first second third : Position}
    (firstSecond : first ≤ second)
    (secondThird : second ≤ third) :
    first ≤ third := by
  rw [le_def] at *
  omega

theorem line_le
    {earlier later : Position}
    (isOrdered : earlier ≤ later) :
    earlier.line ≤ later.line := by
  rw [le_def] at isOrdered
  omega

theorem le_after (position : Position) (c : Char) : position ≤ position.after c := by
  by_cases isFeed : c = '\n'
  · exact .inl (by simp [after, isFeed])
  · exact .inr (by simp [after, isFeed])

end Position

namespace Text

theorem le_positionAfter (here : Position) (offset : Nat) (chars : List Char) :
    here ≤ positionAfter here offset chars := by
  fun_induction positionAfter here offset chars with
  | case1 => exact Position.le_refl _
  | case2 => exact Position.le_refl _
  | case3 here offset c rest _ inductionHypothesis =>
    exact Position.le_trans (Position.le_after here c) inductionHypothesis

theorem positionAfter_mono
    (here : Position) {offset later : Nat} (chars : List Char)
    (isLater : offset ≤ later) :
    positionAfter here offset chars ≤ positionAfter here later chars := by
  fun_induction positionAfter here offset chars generalizing later with
  | case1 => exact le_positionAfter _ later []
  | case2 here offset c rest => exact le_positionAfter here later (c :: rest)
  | case3 here offset c rest isBehind inductionHypothesis =>
    rw [positionAfter, if_neg (by omega)]
    apply inductionHypothesis
    omega

theorem positionOf_mono
    (text : Text) {offset later : Nat}
    (isLater : offset ≤ later) :
    text.positionOf offset ≤ text.positionOf later :=
  positionAfter_mono .zero text.chars isLater

theorem unitsOfColumn_mono
    {column later : Nat} (chars : List Char)
    (isLater : column ≤ later) :
    unitsOfColumn column chars ≤ unitsOfColumn later chars := by
  fun_induction unitsOfColumn column chars generalizing later with
  | case1 => simpa [unitsOfColumn] using isLater
  | case2 => exact Nat.zero_le _
  | case3 column c rest inductionHypothesis =>
    obtain ⟨later, rfl⟩ : ∃ before, later = before + 1 := ⟨later - 1, by omega⟩
    exact Nat.add_le_add_left (inductionHypothesis (Nat.le_of_succ_le_succ isLater)) _

/-- The column of the position is one of its line, or the end of that line. -/
def IsOnLine (text : Text) (position : Position) : Prop :=
  position.column ≤ (text.lineChars position.line).length

theorem toUtf16_of_isOnLine
    {text : Text} {position : Position}
    (isOnLine : text.IsOnLine position) :
    text.toUtf16 position =
      ⟨position.line, unitsOfColumn position.column (text.lineChars position.line)⟩ :=
  congrArg (Position.mk position.line) (if_pos isOnLine)

theorem toUtf16_mono
    {text : Text} {earlier later : Position}
    (isOrdered : earlier ≤ later)
    (isOnLine : text.IsOnLine later) :
    text.toUtf16 earlier ≤ text.toUtf16 later := by
  rcases isOrdered with isAbove | ⟨sameLine, isBefore⟩
  · exact .inl isAbove
  · have earlierOnLine : text.IsOnLine earlier := by
      rw [IsOnLine, sameLine]
      exact Nat.le_trans isBefore isOnLine
    rw [toUtf16_of_isOnLine earlierOnLine, toUtf16_of_isOnLine isOnLine, sameLine]
    exact .inr ⟨rfl, unitsOfColumn_mono _ isBefore⟩

/-! ## Columns and units -/

theorem charUnits_pos (c : Char) : 0 < charUnits c := by
  unfold charUnits
  split <;> decide

theorem columnOfUnits_unitsOfColumn (column : Nat) (chars : List Char) :
    columnOfUnits (unitsOfColumn column chars) chars = column := by
  fun_induction unitsOfColumn column chars with
  | case1 => rfl
  | case2 => rfl
  | case3 column c rest inductionHypothesis =>
    have notEmpty := charUnits_pos c
    obtain ⟨units, isUnits⟩ : ∃ units, charUnits c + unitsOfColumn column rest = units + 1 :=
      ⟨charUnits c + unitsOfColumn column rest - 1, by omega⟩
    rw [isUnits, columnOfUnits, ← isUnits, Nat.add_sub_cancel_left, inductionHypothesis]

theorem ofUtf16_toUtf16
    {text : Text} {position : Position}
    (isOnLine : text.IsOnLine position) :
    text.ofUtf16 (text.toUtf16 position) = position := by
  rw [ofUtf16, toUtf16_of_isOnLine isOnLine, columnOfUnits_unitsOfColumn]

/-! ## Offsets between characters -/

/-- The offset does not lie inside of a character, nor behind the text. -/
def IsBoundary (text : Text) (offset : Nat) : Prop :=
  ∃ front back, text.chars = front ++ back ∧ byteSize front = offset

theorem isBoundary_length (text : Text) : text.IsBoundary text.length :=
  ⟨text.chars, [], (List.append_nil _).symm, rfl⟩

theorem positionAfter_add (here : Position) (front : List Char) (offset : Nat) (back : List Char) :
    positionAfter here (byteSize front + offset) (front ++ back) =
      positionAfter (front.foldl Position.after here) offset back := by
  induction front generalizing here with
  | nil => rw [byteSize, Nat.zero_add, List.nil_append, List.foldl_nil]
  | cons c front inductionHypothesis =>
    rw [List.cons_append, positionAfter, byteSize, if_neg (by omega), Nat.add_assoc,
      Nat.add_sub_cancel_left, inductionHypothesis, List.foldl_cons]

theorem positionAfter_byteSize (here : Position) (front back : List Char) :
    positionAfter here (byteSize front) (front ++ back) = front.foldl Position.after here := by
  rw [← Nat.add_zero (byteSize front), positionAfter_add]
  cases back with
  | nil => rfl
  | cons c back => exact if_pos (Char.utf8Size_pos c)

/-- Characters without a line feed move on by one column each. -/
theorem foldl_after_of_line
    {line : List Char} (here : Position)
    (noFeed : '\n' ∉ line) :
    line.foldl Position.after here = ⟨here.line, here.column + line.length⟩ := by
  induction line generalizing here with
  | nil => rfl
  | cons c line inductionHypothesis =>
    rw [List.mem_cons, not_or] at noFeed
    have isAfter : here.after c = ⟨here.line, here.column + 1⟩ := if_neg (Ne.symm noFeed.1)
    rw [List.foldl_cons, inductionHypothesis _ noFeed.2, isAfter, List.length_cons,
      Nat.add_assoc, Nat.add_comm 1]

theorem line_foldl_after (here : Position) (chars : List Char) :
    (chars.foldl Position.after here).line = here.line + chars.count '\n' := by
  induction chars generalizing here with
  | nil => rfl
  | cons c chars inductionHypothesis =>
    rw [List.foldl_cons, inductionHypothesis, Position.line_after]
    simp only [List.count_cons, List.count_nil]
    omega

/-- In front of a place there is either no line feed at all or a last one. -/
theorem noFeed_or_exists_last (front : List Char) :
    '\n' ∉ front ∨ ∃ above line, front = above ++ '\n' :: line ∧ '\n' ∉ line := by
  by_cases hasFeed : '\n' ∈ front
  · obtain ⟨line, above, isReversed, noFeed⟩ :=
      List.eq_append_cons_of_mem (List.mem_reverse.2 hasFeed)
    refine .inr ⟨above.reverse, line.reverse, ?_, by simpa using noFeed⟩
    simpa using congrArg List.reverse isReversed
  · exact .inl hasFeed

/-- The lines above take all of their bytes. -/
theorem bytesBefore_below (above : List Char) (line column : Nat) (rest : List Char) :
    bytesBefore (above.count '\n' + line + 1) column (above ++ '\n' :: rest) =
      byteSize (above ++ ['\n']) + bytesBefore line column rest := by
  induction above with
  | nil => simp [bytesBefore, byteSize]
  | cons c above inductionHypothesis =>
    rw [List.cons_append, bytesBefore, List.cons_append, byteSize, Nat.add_assoc c.utf8Size,
      ← inductionHypothesis]
    by_cases isFeed : c = '\n'
    · simp [isFeed, Nat.add_right_comm]
    · simp [isFeed]

theorem bytesBefore_of_line
    {line : List Char}
    (noFeed : '\n' ∉ line) (back : List Char) :
    bytesBefore 0 line.length (line ++ back) = byteSize line := by
  induction line with
  | nil => cases back <;> rfl
  | cons c line inductionHypothesis =>
    rw [List.mem_cons, not_or] at noFeed
    rw [List.cons_append, List.length_cons, bytesBefore, if_neg (Ne.symm noFeed.1),
      inductionHypothesis noFeed.2, byteSize]

/-- An offset between two characters is that of its position. -/
theorem offsetOf_positionOf
    {text : Text} {offset : Nat}
    (isBoundary : text.IsBoundary offset) :
    text.offsetOf (text.positionOf offset) = offset := by
  obtain ⟨front, back, isText, rfl⟩ := isBoundary
  rw [offsetOf, positionOf, isText, positionAfter_byteSize]
  rcases noFeed_or_exists_last front with noFeed | ⟨above, line, rfl, noFeed⟩
  · rw [foldl_after_of_line _ noFeed]
    simpa [Position.zero] using bytesBefore_of_line noFeed back
  · have isPlace : (above ++ '\n' :: line).foldl Position.after .zero =
        ⟨above.count '\n' + 1, line.length⟩ := by
      rw [List.foldl_append, List.foldl_cons, foldl_after_of_line _ noFeed, Position.after,
        if_pos rfl, line_foldl_after]
      simp [Position.zero]
    have isBelow := bytesBefore_below above 0 line.length (line ++ back)
    rw [Nat.add_zero, bytesBefore_of_line noFeed, ← byteSize_append, List.append_assoc,
      List.singleton_append] at isBelow
    rw [isPlace, List.append_assoc, List.cons_append, isBelow]

end Text

end ConceptScript
