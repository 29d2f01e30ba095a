import ConceptScript.Editor.Hover
import ConceptScript.Proofs.Analysis.ValidText
import ConceptScript.Proofs.Text.Line

/-!
Contract: analyses at positions that stand for one offset.

Such positions lie on one line, and then the two analyses differ in nothing but the position they
were asked for, or they stand for the end of the text. At the end a comment on the last line holds
the positions on that line and not those below it. No concept can be in progress there unless a
problem is reported, and every problem is then reported at the position or above.

Owns how analyses with one offset differ.

Does not own the answers that are made of them.
-/

set_option autoImplicit false

namespace ConceptScript

/-- The last comment starts on the last line. -/
def Text.EndsInComment (text : Text) : Prop :=
  ((Stream.ofText text).comments.getLast?.any fun comment =>
    (text.positionOf comment.start).line == text.lastLine) = true

instance (text : Text) : Decidable text.EndsInComment :=
  inferInstanceAs (Decidable (_ = true))

namespace Analysis

variable (catalog : Catalog) {text : Text} {first second position : Position}

/-! ## One line -/

/-- The position itself matters only where it decides about a comment. -/
theorem ofText_eq_of_sameComment
    (sameOffset : text.offsetOf first = text.offsetOf second)
    (sameComment : (ofText catalog text first).insideComment =
      (ofText catalog text second).insideComment) :
    ofText catalog text first = { ofText catalog text second with position := first } := by
  have isInside : isInsideComment text first.line (text.offsetOf first) none
        (Stream.ofText text).comments =
      isInsideComment text second.line (text.offsetOf second) none
        (Stream.ofText text).comments := sameComment
  rw [sameOffset] at isInside
  simp only [ofText, sameOffset, isInside]

/-- Of two positions on one line, the analysis keeps only which one it was asked for. -/
theorem run_eq_of_sameLine
    (sameOffset : text.offsetOf first = text.offsetOf second)
    (sameLine : first.line = second.line) :
    run catalog text (some first) =
      { run catalog text (some second) with position := first } := by
  have firstOffset := (Text.cut_cutAfterLine text first).offsetOf_eq
  have secondOffset := (Text.cut_cutAfterLine text second).offsetOf_eq
  show ofText catalog (text.cutAfterLine (text.offsetOf first)) first = _
  rw [run]
  -- One offset means one cut, so both are analyses of the same text.
  rw [sameOffset] at firstOffset ⊢
  generalize text.cutAfterLine (text.offsetOf second) = cut at firstOffset secondOffset
  have sameInCut := firstOffset.trans secondOffset.symm
  apply ofText_eq_of_sameComment catalog sameInCut
  show isInsideComment cut first.line (cut.offsetOf first) none _ =
    isInsideComment cut second.line (cut.offsetOf second) none _
  rw [sameInCut, sameLine]

/-! ## The end of the text -/

theorem run_of_atEnd
    (atEnd : text.offsetOf position = text.length) :
    run catalog text (some position) = ofText catalog text position := by
  rw [run, Text.cutAfterLine_of_atEnd atEnd]

/-- Behind all comments the last one decides. -/
theorem isInsideComment_of_behind
    {target : Nat} {comments : List Token} (line : Nat) (last : Option Token)
    (isBehind : ∀ comment ∈ comments, comment.start < comment.stop ∧ comment.stop ≤ target) :
    isInsideComment text line target last comments =
      (comments.getLast?.or last).any
        fun comment => (text.positionOf comment.start).line == line := by
  induction comments generalizing last with
  | nil => rfl
  | cons comment later inductionHypothesis =>
    obtain ⟨notEmpty, isBefore⟩ := isBehind comment List.mem_cons_self
    have notCovered : comment.covers target = false := by
      simp only [Token.covers, Bool.and_eq_false_iff, decide_eq_false_iff_not]
      omega
    have notBehind : ¬ target < comment.start := by omega
    have laterBehind := fun other member => isBehind other (List.mem_cons_of_mem comment member)
    rw [isInsideComment, notCovered, if_neg notBehind, if_neg Bool.false_ne_true,
      inductionHypothesis _ laterBehind]
    cases isLast : later.getLast? with
    | none => simp [List.getLast?_eq_none_iff.1 isLast]
    | some other => simp [List.getLast?_cons, isLast]

theorem token_before_end
    {token : Token}
    (isToken : token ∈ (Scan.ofChars text.chars).raw) :
    token.start < token.stop ∧ token.stop ≤ text.length := by
  obtain ⟨-, notEmpty, isInside⟩ := (Scan.lies_ofChars text.chars).inside token isToken
  exact ⟨notEmpty, isInside⟩

/-- At the end, a comment on the last line holds exactly the positions on that line. -/
theorem insideComment_atEnd_iff
    (atEnd : text.offsetOf position = text.length)
    (isBelow : text.lastLine ≤ position.line) :
    (ofText catalog text position).insideComment = true ↔
      text.EndsInComment ∧ position.line ≤ text.lastLine := by
  have isInside : (ofText catalog text position).insideComment =
      (Stream.ofText text).comments.getLast?.any
        fun comment => (text.positionOf comment.start).line == position.line := by
    have allBehind : ∀ comment ∈ (Stream.ofText text).comments,
        comment.start < comment.stop ∧ comment.stop ≤ text.offsetOf position := by
      intro comment member
      rw [atEnd]
      exact token_before_end (List.mem_filter.1 member).1
    have isLast : (ofText catalog text position).insideComment =
        ((Stream.ofText text).comments.getLast?.or none).any
          fun comment => (text.positionOf comment.start).line == position.line :=
      isInsideComment_of_behind position.line none allBehind
    rwa [Option.or_none] at isLast
  rw [isInside, Text.EndsInComment]
  cases (Stream.ofText text).comments.getLast? with
  | none => simp
  | some comment =>
    have isAbove := Text.line_positionOf_le_lastLine text comment.start
    simp only [Option.any_some, beq_iff_eq]
    omega

/-- A whole script that is read without fault leaves no concept in progress at its end. -/
theorem keyword_of_outcome
    {tokens : List Token} {stop offset : Nat} {concepts : List Concept}
    (ordered : tokens.Pairwise fun earlier later => earlier.start < later.start)
    (isBefore : ∀ token ∈ tokens, token.start ≤ offset)
    (isOutcome : (catalog.parse tokens stop).outcome = .ok concepts) :
    (Construct.after offset (catalog.parse tokens stop).events {}).keyword = none := by
  cases tokens with
  | nil =>
    have isParse : Parse.State.parse catalog ⟨[], ⟨[], [], stop⟩⟩ = ⟨[], .ok []⟩ :=
      Parse.parse_of_halts .finished
    rw [← Parse.parse_initial, Parse.State.initial, Reader.ofTokens, isParse]
    rfl
  | cons token tokens =>
    obtain ⟨events, read, halted, parse, steps, halts⟩ :=
      Parse.exists_steps_halts catalog (.initial (token :: tokens) stop)
    have sameTokens : halted.reader.tokens = token :: tokens := steps.reaches.tokens_eq
    have quiet : Construct.Quiet offset (Construct.after offset events {}) halted.reader :=
      Construct.quiet_steps steps ordered (.inl rfl)
    rw [← Parse.parse_initial, Parse.parse_eq_after steps halts] at isOutcome ⊢
    -- Of all halts only the one at the end of the tokens is without fault.
    cases halts with
    | @finished consumed stop =>
      rw [Parse.after, List.append_nil]
      rcases quiet with noKeyword | isBehind
      · exact noKeyword
      · cases consumed with
        | nil => cases sameTokens
        | cons last consumed =>
          have isToken : last ∈ token :: tokens := by
            rw [← sameTokens]
            simp [Reader.tokens]
          have isLate : offset < last.start := isBehind last rfl
          have notLate := isBefore last isToken
          omega
    | unclosed => cases isOutcome
    | unopened => cases isOutcome
    | unread => cases isOutcome
    | unended => cases isOutcome

/-- All problems of a text are on its lines. -/
theorem problems_eq_nil_of_not_below
    {asked : Position}
    (isBelow : text.lastLine ≤ position.line)
    (noProblem : (ofText catalog text asked).isBelowProblem position = false) :
    (run catalog text none).problems = [] := by
  have sameProblems : (run catalog text none).problems = (ofText catalog text asked).problems :=
    rfl
  rw [sameProblems]
  apply List.eq_nil_iff_forall_not_mem.2
  intro problem reported
  have isLine : problem.position.line ≤ text.lastLine := by
    rw [problems_ofText, Stream.problems, ← List.map_append] at reported
    obtain ⟨fault, -, rfl⟩ := List.mem_map.1 reported
    exact Text.line_positionOf_le_lastLine text fault.offset
  have isAbove := List.any_eq_false.1 noProblem problem reported
  rw [decide_eq_true_eq] at isAbove
  omega

/-- At the end there is no help on a keyword: a concept that is in progress there is a problem. -/
theorem helpKeyword?_atEnd
    {asked : Position}
    (atEnd : text.offsetOf asked = text.length)
    (isBelow : text.lastLine ≤ position.line) :
    (ofText catalog text asked).helpKeyword? position = none := by
  unfold helpKeyword?
  split
  · rfl
  · next notBelow =>
    have noProblem := problems_eq_nil_of_not_below catalog isBelow (Bool.eq_false_iff.2 notBelow)
    obtain ⟨noFault, concepts, isOutcome⟩ := exists_outcome_of_valid noProblem
    have isDone : (Construct.after (text.offsetOf asked) (catalog.parse (Stream.ofText text).tokens
        (Stream.ofText text).stop).events {}).keyword = none := by
      rw [stop_of_not_broken noFault]
      apply keyword_of_outcome catalog (Stream.ordered_tokens text) ?_ isOutcome
      intro token member
      have isInside := token_before_end (List.mem_filter.1 member).1
      omega
    cases isKeyword : (ofText catalog text asked).cursor.keyword with
    | none => rfl
    | some keyword => exact (after_of_keyword isKeyword).symm.trans isDone

end Analysis

end ConceptScript
