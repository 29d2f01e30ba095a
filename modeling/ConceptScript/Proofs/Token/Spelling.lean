import ConceptScript.Proofs.Token.Extension

/-!
Contract: how lexemes are written.

A lexeme is told from its characters and from the one behind them. This is said here without the
reader of lexemes, and the reader is shown to find exactly the lexemes so written: whatever it finds
is written in this way, and where something is written in this way it finds just that.

Owns the spelling of the four forms, that a spelling is that of one lexeme, and that nothing is
spelled where the reader has a fault.

Does not own blanks and offsets.
-/

set_option autoImplicit false

namespace ConceptScript

/-! ## Blanks are in no name -/

namespace Text

theorem exists_range_of_isAlphanumeric
    {c : Char} (isLetter : isAlphanumeric c = true) :
    ∃ range ∈ alphanumericRanges, range.1 ≤ c.toNat ∧ c.toNat ≤ range.2 := by
  unfold isAlphanumeric at isLetter
  split at isLetter
  · change ((decide (65 ≤ c.val ∧ c.val ≤ 90) ||
      decide (97 ≤ c.val) && decide (c.val ≤ 122)) ||
      decide (48 ≤ c.val) && decide (c.val ≤ 57)) = true at isLetter
    simp only [Bool.or_eq_true, Bool.and_eq_true, decide_eq_true_eq,
      UInt32.le_iff_toNat_le] at isLetter
    change ((65 ≤ c.toNat ∧ c.toNat ≤ 90) ∨ (97 ≤ c.toNat ∧ c.toNat ≤ 122)) ∨
      (48 ≤ c.toNat ∧ c.toNat ≤ 57) at isLetter
    rcases isLetter with (isUpper | isLower) | isDigit
    · exact ⟨(65, 90), by decide +kernel, isUpper⟩
    · exact ⟨(97, 122), by decide +kernel, isLower⟩
    · exact ⟨(48, 57), by decide +kernel, isDigit⟩
  · simpa using isLetter

/-- The two tables have no code point in common. -/
theorem blankRanges_apart :
    ∀ blank ∈ blankRanges, ∀ range ∈ alphanumericRanges,
      blank.2 < range.1 ∨ range.2 < blank.1 := by
  decide +kernel

theorem not_isAlphanumeric_of_isBlank
    {c : Char} (blank : isBlank c = true) :
    isAlphanumeric c = false := by
  apply Bool.eq_false_iff.2
  intro isLetter
  obtain ⟨range, inTable, above, below⟩ := exists_range_of_isAlphanumeric isLetter
  obtain ⟨blankRange, inBlanks, isInside⟩ := List.any_eq_true.1 blank
  simp only [Bool.and_eq_true, decide_eq_true_eq] at isInside
  have apart := blankRanges_apart blankRange inBlanks range inTable
  omega

end Text

namespace Lexeme

theorem not_isBlank_of_isNameChar
    {c : Char} (isName : isNameChar c = true) :
    Text.isBlank c = false := by
  apply Bool.eq_false_iff.2
  intro blank
  simp only [isNameChar, Bool.or_eq_true, decide_eq_true_eq] at isName
  rcases isName with isLetter | rfl
  · rw [Text.not_isAlphanumeric_of_isBlank blank] at isLetter
    cases isLetter
  · exact absurd blank (by decide)

/-! ## The four spellings -/

/-- The kind and value of a lexeme, the characters it is written with, and those behind it, of which
the first must not continue the lexeme. -/
inductive Spelled : Token.Kind → (value spelling rest : List Char) → Prop where
  | name {value rest : List Char}
      (notEmpty : value ≠ [])
      (allName : ∀ c ∈ value, isNameChar c = true)
      (ends : ∀ c ∈ rest.head?, isNameChar c = false) :
      Spelled .identifier value value rest
  | special {mark : Char} (isSpecial : isMark mark = true) (rest : List Char) :
      Spelled .special [mark] [mark] rest
  | comment {value rest : List Char}
      (oneLine : ∀ c ∈ value, isLineEnd c = false)
      (ends : ∀ c ∈ rest.head?, isLineEnd c = true) :
      Spelled .comment value ('/' :: '/' :: value) rest
  | literal {mark : Char} {value rest : List Char}
      (isOpened : isQuote mark = true)
      (ends : rest.head? ≠ some mark) :
      Spelled .stringLiteral value (mark :: doubled mark value ++ [mark]) rest

/-! ## Quoted text -/

theorem unquote_cons_of_ne
    {mark c : Char}
    (other : c ≠ mark) (chars : List Char) :
    unquote mark (c :: chars) =
      (unquote mark chars).map fun (value, after) => (c :: value, after) := by
  cases chars with
  | nil => simp [unquote, other]
  | cons d rest => simp [unquote, other]

theorem unquote_doubled
    {mark : Char} (value : List Char) {rest : List Char}
    (ends : rest.head? ≠ some mark) :
    unquote mark (doubled mark value ++ mark :: rest) = some (value, rest) := by
  induction value with
  | nil =>
    cases rest with
    | nil => simp [doubled, unquote]
    | cons d rest =>
      have other : d ≠ mark := by simpa using ends
      simp [doubled, unquote, other]
  | cons c value inductionHypothesis =>
    rw [doubled_cons]
    by_cases isMark : c = mark
    · subst isMark
      simp [unquote, inductionHypothesis]
    · simp [isMark, unquote_cons_of_ne, inductionHypothesis]

/-- The quote that closes a literal is not followed by another one, which would escape it. -/
theorem unquote_ends
    {mark : Char} {chars value after : List Char}
    (closed : unquote mark chars = some (value, after)) :
    after.head? ≠ some mark := by
  fun_induction unquote mark chars generalizing value after with
  | case1 => cases closed
  | case2 =>
    obtain ⟨rfl, rfl⟩ := Prod.mk.inj (Option.some.inj closed)
    simp
  | case3 => cases closed
  | case4 rest inductionHypothesis =>
    obtain ⟨⟨inner, behind⟩, innerClosed, same⟩ := Option.map_eq_some_iff.1 closed
    obtain ⟨rfl, rfl⟩ := Prod.mk.inj same
    exact inductionHypothesis innerClosed
  | case5 d rest other =>
    obtain ⟨rfl, rfl⟩ := Prod.mk.inj (Option.some.inj closed)
    simpa using other
  | case6 c d rest other inductionHypothesis =>
    obtain ⟨⟨inner, behind⟩, innerClosed, same⟩ := Option.map_eq_some_iff.1 closed
    obtain ⟨rfl, rfl⟩ := Prod.mk.inj same
    exact inductionHypothesis innerClosed

/-! ## Spellings are what is read -/

theorem takeWhile_append_of_ends
    {taken : Char → Bool} {chars rest : List Char}
    (allTaken : ∀ c ∈ chars, taken c = true)
    (ends : ∀ c ∈ rest.head?, taken c = false) :
    (chars ++ rest).takeWhile taken = chars ∧ (chars ++ rest).dropWhile taken = rest := by
  rw [List.takeWhile_append_of_pos allTaken, List.dropWhile_append_of_pos allTaken]
  cases rest with
  | nil => simp
  | cons c rest => simp [ends c rfl]

theorem head?_dropWhile
    {taken : Char → Bool} {chars : List Char} {c : Char}
    (isFirst : c ∈ (chars.dropWhile taken).head?) :
    taken c = false := by
  have notTaken := List.head?_dropWhile_not taken chars
  rw [Option.mem_def.1 isFirst] at notTaken
  simpa using notTaken

theorem Reads.spelled
    {chars after : List Char} {lexeme : Lexeme}
    (reads : Reads chars lexeme after) :
    Spelled lexeme.kind lexeme.value lexeme.spelling after := by
  cases reads with
  | comment rest =>
    refine .comment ?_ ?_
    · intro c member
      simpa using List.all_eq_true.1 List.all_takeWhile c member
    · intro c isFirst
      simpa using head?_dropWhile isFirst
  | literal isOpened isClosed => exact .literal isOpened (unquote_ends isClosed)
  | special isSpecial => exact .special isSpecial after
  | @name first isName rest =>
    refine .name (List.cons_ne_nil _ _) ?_ ?_
    · intro c member
      rcases List.mem_cons.1 member with rfl | member
      · exact isName
      · exact List.all_eq_true.1 List.all_takeWhile c member
    · intro c isFirst
      exact head?_dropWhile isFirst

theorem Spelled.reads
    {kind : Token.Kind} {value spelling rest : List Char}
    (spelled : Spelled kind value spelling rest) :
    Reads (spelling ++ rest) ⟨kind, value, spelling⟩ rest := by
  cases spelled with
  | name notEmpty allName ends =>
    cases value with
    | nil => exact absurd rfl notEmpty
    | cons first value =>
      have laterName : ∀ c ∈ value, isNameChar c = true :=
        fun c member => allName c (List.mem_cons_of_mem first member)
      obtain ⟨isTaken, isLeft⟩ := takeWhile_append_of_ends laterName ends
      have reads := Reads.name (allName first List.mem_cons_self) (value ++ rest)
      rwa [isTaken, isLeft] at reads
  | special isSpecial => exact .special isSpecial rest
  | comment oneLine ends =>
    have allTaken : ∀ c ∈ value, (!isLineEnd c) = true := by
      intro c member
      simp [oneLine c member]
    have lineEnds : ∀ c ∈ rest.head?, (!isLineEnd c) = false := by
      intro c isFirst
      simp [ends c isFirst]
    obtain ⟨isTaken, isLeft⟩ := takeWhile_append_of_ends allTaken lineEnds
    have reads := Reads.comment (value ++ rest)
    rwa [isTaken, isLeft] at reads
  | @literal mark _ _ isOpened ends =>
    have isClosed := unquote_doubled value ends
    have same : mark :: doubled mark value ++ [mark] ++ rest =
        mark :: (doubled mark value ++ mark :: rest) := by simp
    rw [same]
    exact .literal isOpened isClosed

theorem Spelled.read
    {kind : Token.Kind} {value spelling rest : List Char}
    (spelled : Spelled kind value spelling rest) :
    Lexeme.read (spelling ++ rest) = some (.ok (⟨kind, value, spelling⟩, rest)) :=
  read_of_reads spelled.reads

theorem Spelled.ne_nil
    {kind : Token.Kind} {value spelling rest : List Char}
    (spelled : Spelled kind value spelling rest) :
    spelling ≠ [] :=
  (read_spelling spelled.read).2

/-- No lexeme starts with a blank, so that blanks in front of one are no part of it. -/
theorem Spelled.first_not_blank
    {kind : Token.Kind} {value spelling rest : List Char}
    (spelled : Spelled kind value spelling rest) :
    ∀ c ∈ (spelling ++ rest).head?, Text.isBlank c = false := by
  intro c isFirst
  cases spelled with
  | name notEmpty allName ends =>
    cases value with
    | nil => exact absurd rfl notEmpty
    | cons first value =>
      obtain rfl : first = c := by simpa using isFirst
      exact not_isBlank_of_isNameChar (allName first List.mem_cons_self)
  | @special mark isSpecial =>
    obtain rfl : mark = c := by simpa using isFirst
    rcases isMark_cases isSpecial with rfl | rfl | rfl | rfl <;> decide
  | comment =>
    obtain rfl : '/' = c := by simpa using isFirst
    decide
  | @literal mark _ _ isOpened =>
    obtain rfl : mark = c := by simpa using isFirst
    rcases isQuote_cases isOpened with rfl | rfl <;> decide

/-! ## A spelling is that of one lexeme -/

theorem Spelled.at_end
    {kind : Token.Kind} {value spelling rest : List Char}
    (spelled : Spelled kind value spelling rest) :
    Spelled kind value spelling [] := by
  cases spelled with
  | name notEmpty allName => exact .name notEmpty allName (by simp)
  | special isSpecial => exact .special isSpecial []
  | comment oneLine => exact .comment oneLine (by simp)
  | literal isOpened => exact .literal isOpened (by simp)

/-- The characters of a lexeme determine its kind and its value. -/
theorem Spelled.unique
    {kind other : Token.Kind} {value otherValue spelling rest otherRest : List Char}
    (spelled : Spelled kind value spelling rest)
    (otherSpelled : Spelled other otherValue spelling otherRest) :
    kind = other ∧ value = otherValue := by
  have first := spelled.at_end.read
  have second := otherSpelled.at_end.read
  rw [first] at second
  simpa using second

/-! ## Nothing is spelled where there is a fault -/

theorem cause_of_fails
    {c : Char} {rest : List Char} {cause : Fault.Cause}
    (fails : Fails (c :: rest) cause) :
    cause = if isQuote c then .unclosedString c else .unexpectedCharacter c := by
  cases fails with
  | unclosed isOpened => rw [if_pos isOpened]
  | unexpected noComment noQuote => simp [noQuote]

theorem not_spelled_of_read
    {chars : List Char} {cause : Fault.Cause}
    (failed : read chars = some (.error cause))
    {kind : Token.Kind} {value spelling rest : List Char}
    (spelled : Spelled kind value spelling rest) :
    spelling ++ rest ≠ chars := by
  rintro rfl
  rw [spelled.read] at failed
  cases Option.some.inj failed

end Lexeme

end ConceptScript
