import ConceptScript.Editor.Completion
import ConceptScript.Editor.SignatureHelp
import ConceptScript.Proofs.Analysis.SharedOffset
import ConceptScript.Proofs.Document.Cache

/-!
Contract: what the answers about a position owe to the queries before.

A query finds the analysis of the first position with the same offset. Hovers and signatures are the
same as if it were its own. Completions are too, except behind a comment that ends the text: there
the first position decides whether the comment holds both, although it holds only the positions on
the last line.

Owns queries, and when the answers of a used document are those of a fresh one.

Does not own what the answers are.
-/

set_option autoImplicit false

namespace ConceptScript

/-- The start of the line below the last one, which stands for the end of the text. -/
def Text.below (text : Text) : Position :=
  ⟨text.lastLine + 1, 0⟩

theorem Text.offsetOf_below (text : Text) : text.offsetOf text.below = text.length :=
  offsetOf_of_lastLine_lt (Nat.lt_succ_self _)

/-! ## Answers made of an analysis that was asked for at another position -/

namespace Analysis

variable (catalog : Catalog) {text : Text} {first position : Position}

theorem helpKeyword?_of_atEnd
    (atEnd : text.offsetOf position = text.length)
    (sameOffset : text.offsetOf first = text.offsetOf position)
    (isBelow : text.lastLine ≤ position.line) :
    (run catalog text (some first)).helpKeyword? position = none := by
  rw [← sameOffset] at atEnd
  rw [run_of_atEnd catalog atEnd]
  exact helpKeyword?_atEnd catalog atEnd isBelow

theorem hover?_of_sameOffset
    (sameOffset : text.offsetOf first = text.offsetOf position) :
    (run catalog text (some first)).hover? catalog position =
      (run catalog text (some position)).hover? catalog position := by
  rcases Text.line_eq_or_atEnd sameOffset with sameLine | ⟨atEnd, -, isBelow⟩
  · rw [run_eq_of_sameLine catalog sameOffset sameLine]
    rfl
  · unfold hover?
    rw [helpKeyword?_of_atEnd catalog atEnd sameOffset isBelow,
      helpKeyword?_of_atEnd catalog atEnd rfl isBelow]
    rfl

theorem signatureHelp?_of_sameOffset
    (sameOffset : text.offsetOf first = text.offsetOf position) :
    (run catalog text (some first)).signatureHelp? catalog position =
      (run catalog text (some position)).signatureHelp? catalog position := by
  rcases Text.line_eq_or_atEnd sameOffset with sameLine | ⟨atEnd, -, isBelow⟩
  · rw [run_eq_of_sameLine catalog sameOffset sameLine]
    rfl
  · unfold signatureHelp?
    rw [helpKeyword?_of_atEnd catalog atEnd sameOffset isBelow,
      helpKeyword?_of_atEnd catalog atEnd rfl isBelow]
    rfl

/-- Of a position, completions depend on the offset only. -/
theorem completions_congr
    {analysis : Analysis} {other : Position}
    (sameOffset : analysis.text.offsetOf position = analysis.text.offsetOf other) :
    analysis.completions catalog position = analysis.completions catalog other := by
  unfold completions offersKeywords typedAt?
  rw [sameOffset]

/-- At the end, completions are those below the text, unless the analysis was asked for in the
comment there. -/
theorem completions_atEnd
    (atEnd : text.offsetOf position = text.length)
    (sameOffset : text.offsetOf first = text.offsetOf position)
    (isBelow : text.lastLine ≤ first.line) :
    (run catalog text (some first)).completions catalog position =
      if text.EndsInComment ∧ first.line ≤ text.lastLine then []
      else (run catalog text (some text.below)).completions catalog text.below := by
  have firstAtEnd := sameOffset.trans atEnd
  have belowAtEnd := text.offsetOf_below
  have isInside := insideComment_atEnd_iff catalog firstAtEnd isBelow
  rw [run_of_atEnd catalog firstAtEnd, run_of_atEnd catalog belowAtEnd]
  split
  · next holds =>
    have inComment := isInside.2 holds
    simp [completions, offersKeywords, inComment]
  · next holdsNot =>
    -- No comment holds a position below the text, so outside of comments all are alike.
    have outside : (ofText catalog text first).insideComment = false := by
      apply Bool.eq_false_iff.2
      intro inComment
      exact holdsNot (isInside.1 inComment)
    have belowOutside : (ofText catalog text text.below).insideComment = false := by
      apply Bool.eq_false_iff.2
      intro inComment
      have isAbove := ((insideComment_atEnd_iff catalog belowAtEnd (Nat.le_succ _)).1 inComment).2
      exact Nat.not_succ_le_self _ isAbove
    rw [ofText_eq_of_sameComment catalog (firstAtEnd.trans belowAtEnd.symm)
      (outside.trans belowOutside.symm)]
    exact completions_congr catalog (atEnd.trans belowAtEnd.symm)

/-- Completions differ only where a comment ends the text, one of the two positions is on its line
and the other below, and where something is offered below. -/
theorem completions_of_sameOffset_iff
    (sameOffset : text.offsetOf first = text.offsetOf position) :
    (run catalog text (some first)).completions catalog position =
        (run catalog text (some position)).completions catalog position ↔
      ((first.line ≤ text.lastLine ↔ position.line ≤ text.lastLine) ∨ ¬ text.EndsInComment ∨
        (run catalog text (some text.below)).completions catalog text.below = []) := by
  rcases Text.line_eq_or_atEnd sameOffset with sameLine | ⟨atEnd, firstBelow, isBelow⟩
  · rw [run_eq_of_sameLine catalog sameOffset sameLine, sameLine]
    exact iff_of_true rfl (.inl Iff.rfl)
  · rw [completions_atEnd catalog atEnd sameOffset firstBelow,
      completions_atEnd catalog atEnd rfl isBelow]
    generalize (run catalog text (some text.below)).completions catalog text.below = offered
    by_cases endsInComment : text.EndsInComment
    · by_cases firstLast : first.line ≤ text.lastLine <;>
        by_cases isLast : position.line ≤ text.lastLine <;>
        simp [endsInComment, firstLast, isLast]
    · simp [endsInComment]

end Analysis

/-! ## Queries -/

namespace Document

/-- What an editor asks a document. -/
inductive Query where
  | analysis (position : Option Position)
  | completions (position : Position)
  | hover (position : Position)
  | signatureHelp (position : Position)

/-- The position that is analysed for a query. -/
def Query.position : Query → Option Position
  | .analysis position => position
  | .completions position => some position
  | .hover position => some position
  | .signatureHelp position => some position

/-- The document after a query. -/
def ask (context : Context) (document : Document) : Query → Document
  | .analysis position => (document.analyse context position).2
  | .completions position => (document.completions context position).2
  | .hover position => (document.hover? context position).2
  | .signatureHelp position => (document.signatureHelp? context position).2

/-- All that a query leaves behind is the analysis at its position. -/
theorem ask_eq_analyse (catalog : Catalog) (document : Document) (query : Query) :
    document.ask ⟨some catalog⟩ query =
      (document.analyse ⟨some catalog⟩ query.position).2 := by
  cases query <;> rfl

theorem text_foldl_ask (catalog : Catalog) (queries : List Query) (document : Document) :
    (queries.foldl (ask ⟨some catalog⟩) document).text = document.text := by
  induction queries generalizing document with
  | nil => rfl
  | cons query queries inductionHypothesis =>
    rw [List.foldl_cons, inductionHypothesis, ask_eq_analyse, text_analyse]

theorem Remembers.foldl_ask
    {catalog : Catalog} {asked : List (Option Position)} {document : Document}
    (remembers : Remembers catalog asked document) (queries : List Query) :
    Remembers catalog (asked ++ queries.map Query.position)
      (queries.foldl (ask ⟨some catalog⟩) document) := by
  induction queries generalizing asked document with
  | nil => simpa using remembers
  | cons query queries inductionHypothesis =>
    have remembersQuery : Remembers catalog (asked ++ [query.position])
        (document.ask ⟨some catalog⟩ query) := by
      rw [ask_eq_analyse]
      exact remembers.analyse rfl query.position
    rw [List.map_cons, List.append_cons, List.foldl_cons]
    exact inductionHypothesis remembersQuery

theorem offsetOf_firstAsked
    (text : Text) (asked : List (Option Position)) (position : Position) :
    text.offsetOf (firstAsked text asked position) = text.offsetOf position := by
  unfold firstAsked
  cases isFound : (asked.filterMap id).find? fun earlier =>
      text.offsetOf earlier = text.offsetOf position with
  | none => rfl
  | some earlier =>
    have sameOffset := List.find?_some isFound
    exact of_decide_eq_true sameOffset

/-- After any queries, a document finds the analysis at the first position with the same offset. -/
theorem analyse_foldl_ask
    (catalog : Catalog) (text : Text) (revision : Nat) (queries : List Query)
    (position : Position) :
    ((queries.foldl (ask ⟨some catalog⟩) { text := text, revision := revision }).analyse
        ⟨some catalog⟩ (some position)).1 =
      .run catalog text
        (some (firstAsked text (queries.map Query.position) position)) := by
  have nothing : Remembers catalog [] { text := text, revision := revision } :=
    remembers_nothing catalog rfl
  rw [(nothing.foldl_ask queries).analysis_eq rfl, text_foldl_ask, earliest_some,
    List.nil_append]

/-- Hovers and signatures do not depend on the queries before. Completions do exactly where a
comment ends the text, the first position with the same offset is on its line and this one below,
or the other way round, and where something is offered below the text. -/
theorem answers_eq_fresh_iff
    (catalog : Catalog) (text : Text) (revision : Nat) (queries : List Query)
    (position : Position) :
    let context : Context := ⟨some catalog⟩
    let used : Document := queries.foldl (ask context) { text := text, revision := revision }
    let fresh : Document := { text := text }
    let first := firstAsked text (queries.map Query.position) position
    (used.hover? context position).1 = (fresh.hover? context position).1 ∧
      (used.signatureHelp? context position).1 = (fresh.signatureHelp? context position).1 ∧
      ((used.completions context position).1 = (fresh.completions context position).1 ↔
        (first.line ≤ text.lastLine ↔ position.line ≤ text.lastLine) ∨ ¬ text.EndsInComment ∨
          (fresh.completions context text.below).1 = []) := by
  intro context used fresh first
  have sameOffset : text.offsetOf first = text.offsetOf position := offsetOf_firstAsked ..
  have isUsed := analyse_foldl_ask catalog text revision queries position
  refine ⟨?_, ?_, ?_⟩
  · show (used.analyse context (some position)).1.hover? catalog position = _
    rw [isUsed]
    exact Analysis.hover?_of_sameOffset catalog sameOffset
  · show (used.analyse context (some position)).1.signatureHelp? catalog position = _
    rw [isUsed]
    exact Analysis.signatureHelp?_of_sameOffset catalog sameOffset
  · show (used.analyse context (some position)).1.completions catalog position = _ ↔ _
    rw [isUsed]
    exact Analysis.completions_of_sameOffset_iff catalog sameOffset

/-- A single type without members. -/
def plainAlpha : Catalog :=
  ⟨[⟨"A", some "alpha", "", [], []⟩], by decide +kernel⟩

/-- Asked for at the end of a comment first, and then on a line below the text. -/
theorem completions_below_comment :
    let context : Context := ⟨some plainAlpha⟩
    let fresh : Document := .ofString "// c"
    let used := fresh.ask context (.completions ⟨0, 4⟩)
    (fresh.completions context ⟨5, 0⟩).1 = ["alpha"] ∧
      (used.completions context ⟨5, 0⟩).1 = [] := by
  decide +kernel

end Document

end ConceptScript
