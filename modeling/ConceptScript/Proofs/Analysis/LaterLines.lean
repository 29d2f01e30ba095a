import ConceptScript.Analysis.Basic
import ConceptScript.Catalog.BuiltIn
import ConceptScript.Proofs.Text.PositionIndex

/-!
Contract: an analysis at a position has seen nothing of what follows the line of the position.

Where the line is ended by a line feed, the cut text is told by the characters up to that line feed
alone, whichever column the position is in. Two texts with the same first lines therefore have the
same analysis there. The position is looked up twice, in the whole text and in the cut one, and
stands for the same offset in both.

Owns the cut text of a position on an ended line, and the influence of later lines.

Does not own analyses of whole texts.
-/

set_option autoImplicit false

namespace ConceptScript

namespace Text

/-! ## The cut behind an ended line -/

theorem throughLineFeed_of_ended
    {line : List Char}
    (noFeed : '\n' ∉ line) (rest : List Char) :
    throughLineFeed (line ++ '\n' :: rest) = line ++ ['\n'] := by
  induction line with
  | nil => rfl
  | cons c line inductionHypothesis =>
    rw [List.mem_cons, not_or] at noFeed
    rw [List.cons_append, throughLineFeed, if_neg (Ne.symm noFeed.1),
      inductionHypothesis noFeed.2, List.cons_append]

/-- All columns of an ended line have the same cut behind them. -/
theorem throughLineOf_on_line
    {line : List Char} (column : Nat)
    (noFeed : '\n' ∉ line) (rest : List Char) :
    throughLineOf (bytesBefore 0 column (line ++ '\n' :: rest)) (line ++ '\n' :: rest) =
      line ++ ['\n'] := by
  have noFeedBehind : '\n' ∉ line.drop column := by
    intro isBehind
    exact noFeed (List.mem_of_mem_drop isBehind)
  have isDivided :
      line ++ '\n' :: rest = line.take column ++ (line.drop column ++ '\n' :: rest) := by
    rw [← List.append_assoc, List.take_append_drop]
  rw [bytesBefore_on_line column noFeed (by simp), isDivided, throughLineOf_byteSize,
    throughLineFeed_of_ended noFeedBehind, ← List.append_assoc, List.take_append_drop]

theorem throughLineOf_of_ended (front : List Char) (column : Nat) (rest : List Char) :
    throughLineOf (bytesBefore (front.count '\n') column (front ++ '\n' :: rest))
        (front ++ '\n' :: rest) =
      front ++ ['\n'] := by
  induction front using line_induction with
  | last line noFeed =>
    rw [List.count_eq_zero_of_not_mem noFeed]
    exact throughLineOf_on_line column noFeed rest
  | ended line later noFeed inductionHypothesis =>
    rw [count_of_ended noFeed, List.append_assoc, List.cons_append,
      bytesBefore_below_line _ column noFeed, List.append_cons line '\n' (later ++ '\n' :: rest),
      throughLineOf_below, inductionHypothesis, ← List.append_assoc, ← List.append_cons]

/-- The cut text ends with the line feed of the line. -/
theorem cutAfterLine_of_ended
    {front : List Char} {position : Position}
    (isLine : front.count '\n' = position.line) (rest : List Char) :
    (⟨front ++ '\n' :: rest⟩ : Text).cutAfterLine
        ((⟨front ++ '\n' :: rest⟩ : Text).offsetOf position) =
      ⟨front ++ ['\n']⟩ := by
  rw [cutAfterLine, offsetOf, ← isLine, throughLineOf_of_ended]

/-- With enough line feeds, one of them ends the line. -/
theorem exists_ended_of_lt_count
    {chars : List Char} {number : Nat}
    (isEnded : number < chars.count '\n') :
    ∃ front rest, chars = front ++ '\n' :: rest ∧ front.count '\n' = number := by
  induction chars using line_induction generalizing number with
  | last line noFeed =>
    rw [List.count_eq_zero_of_not_mem noFeed] at isEnded
    exact absurd isEnded (Nat.not_lt_zero number)
  | ended line rest noFeed inductionHypothesis =>
    cases number with
    | zero => exact ⟨line, rest, rfl, List.count_eq_zero_of_not_mem noFeed⟩
    | succ number =>
      rw [count_of_ended noFeed] at isEnded
      obtain ⟨front, behind, rfl, isNumber⟩ := inductionHypothesis (Nat.lt_of_succ_lt_succ isEnded)
      refine ⟨line ++ '\n' :: front, behind, by simp, ?_⟩
      rw [count_of_ended noFeed, isNumber]

end Text

namespace Analysis

/-- **Later lines have no influence.** Texts that have the same characters up to the line feed of
the line of a position have the same analysis there. The analysis looks for the offset that the
position stands for in the whole text. -/
theorem run_ignores_later_lines
    (catalog : Catalog) (shown first second : List Char) (position : Position)
    (isEnded : position.line < shown.count '\n') :
    run catalog ⟨shown ++ first⟩ (some position) = run catalog ⟨shown ++ second⟩ (some position) ∧
      ∀ text, (run catalog text (some position)).offset = text.offsetOf position := by
  obtain ⟨front, rest, rfl, isLine⟩ := Text.exists_ended_of_lt_count isEnded
  have isAnalysis (later : List Char) :
      run catalog ⟨front ++ '\n' :: rest ++ later⟩ (some position) =
        ofText catalog ⟨front ++ ['\n']⟩ position := by
    rw [run, List.append_assoc, List.cons_append, Text.cutAfterLine_of_ended isLine]
  refine ⟨?_, ?_⟩
  · rw [isAnalysis first, isAnalysis second]
  · intro text
    exact (Text.cut_cutAfterLine text position).offsetOf_eq

/-- The first lines of a block that is not closed yet. -/
def openBlock : List Char :=
  "Entity Book \x7b\n  ShortString Naslovč\n".toList

/-- Behind the end of the second line, whether the block is closed in the third line or a literal
begins there that is never closed. -/
theorem run_in_openBlock :
    1 < openBlock.count '\n' ∧
      run .builtIn ⟨openBlock ++ "\x7d\n".toList⟩ (some ⟨1, 40⟩) =
        run .builtIn ⟨openBlock ++ "'a".toList⟩ (some ⟨1, 40⟩) ∧
      (run .builtIn ⟨openBlock ++ "'a".toList⟩ (some ⟨1, 40⟩)).offset = 36 := by
  have isEnded : 1 < openBlock.count '\n' := by decide +kernel
  have isOffset : (⟨openBlock ++ "'a".toList⟩ : Text).offsetOf ⟨1, 40⟩ = 36 := by decide +kernel
  obtain ⟨sameAnalysis, sameOffset⟩ :=
    run_ignores_later_lines .builtIn openBlock "\x7d\n".toList "'a".toList ⟨1, 40⟩ isEnded
  exact ⟨isEnded, sameAnalysis, (sameOffset _).trans isOffset⟩

end Analysis

end ConceptScript
