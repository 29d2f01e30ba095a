import ConceptScript.Proofs.Script.Boundary
import ConceptScript.Proofs.Script.Trace

/-!
Contract: what a parse owes to the tokens behind a mark.

A semicolon or a brace ends whatever was begun in front of it. Up to such a mark a parse has either
come to a fault, and then it comes to that fault with any tokens behind the mark. Or all tokens are
gone past, and then the parse of more tokens begins in the same way and goes on from there.

Owns the concepts of a trace, and that a parse up to a mark is a first part of any longer one.

Does not own tokens that break off inside of a concept.
-/

set_option autoImplicit false

namespace ConceptScript

/-- A semicolon or a brace, at which a concept or a block ends or a block begins. -/
def Token.isMark (token : Token) : Bool :=
  token.isSpecial ";" || token.isSpecial "\x7b" || token.isSpecial "\x7d"

theorem Token.isBarrier_of_isMark
    {token : Token}
    (isMark : token.isMark = true) :
    token.isBarrier = true := by
  simp only [Token.isMark, Bool.or_eq_true] at isMark
  rcases isMark with (isSemicolon | isOpening) | isClosing
  · exact isBarrier_of_isSpecial isSemicolon (by decide)
  · exact isBarrier_of_isSpecial isOpening (by decide)
  · exact isBarrier_of_isSpecial isClosing (by decide)

namespace Parse

/-! ## The concepts of a trace -/

def Move.concept? : Move → Option Concept
  | .reads concept _ _ => some concept
  | .closes _ | .breaksOff _ => none

/-- The concepts that are read up to a halt are those of the trace. -/
theorem Trace.concepts_eq
    {catalog : Catalog} {state halted : State} {events : List Event} {concepts : List Concept}
    {parse : Parse} {moves : List Move}
    (trace : Trace catalog state moves)
    (steps : Steps catalog state events concepts halted)
    (halts : Halts catalog halted parse) :
    moves.filterMap Move.concept? = concepts := by
  induction steps generalizing moves with
  | refl =>
    cases trace with
    | reads step => exact absurd step halts.not_step
    | closes step => exact absurd step halts.not_step
    | breaksOff => rfl
    | stops => rfl
  | head step _ inductionHypothesis =>
    cases trace with
    | reads other _ _ goesOn =>
      obtain ⟨rfl, rfl⟩ := step.unique other
      exact congrArg (List.cons _) (inductionHypothesis goesOn halts)
    | closes other _ goesOn =>
      obtain ⟨nothing, rfl⟩ := step.unique other
      have isLater := inductionHypothesis goesOn halts
      rw [nothing, ← isLater]
      rfl
    | breaksOff stopped => exact absurd step stopped.not_step
    | stops stopped => exact absurd step stopped.not_step

/-! ## Tokens that end in a mark -/

variable {catalog : Catalog} {tokens : List Token} {stop : Nat}

/-- Where no token is left, at most braces are missing. -/
theorem exists_halts_at_end
    (catalog : Catalog) (stack : List Concept) (consumed : List Token) (stop : Nat) :
    ∃ outcome, Halts catalog ⟨stack, ⟨consumed, [], stop⟩⟩ ⟨[], outcome⟩ ∧
      (outcome = .ok [] ∨
        ∃ fault, outcome = .error fault ∧ fault.cause.isUnclosed = true) := by
  cases stack with
  | nil => exact ⟨_, .finished, .inl rfl⟩
  | cons innermost outer => exact ⟨_, .unclosed, .inr ⟨_, rfl, rfl⟩⟩

/-- A fault in front of a mark is found with the same events whatever follows the mark. -/
theorem parse_append_of_fault
    (isEnd : ∀ last ∈ tokens.getLast?, last.isBarrier = true)
    (notBoundary : (catalog.parse tokens stop).atBoundary = false)
    (later : List Token) (wholeStop : Nat) :
    catalog.parse (tokens ++ later) wholeStop =
      (catalog.parse tokens stop).extend later wholeStop := by
  rcases exists_steps_of_barrier catalog [] [] stop isEnd with
    ⟨events, concepts, opened, steps⟩ | ⟨events, concepts, halted, parse, steps, halts, bounded⟩
  · obtain ⟨outcome, halts, isOutcome⟩ :=
      exists_halts_at_end catalog opened (tokens.reverse ++ []) stop
    have isParse : catalog.parse tokens stop = after events concepts ⟨[], outcome⟩ :=
      parse_eq_after steps halts
    rw [isParse, atBoundary_after] at notBoundary
    rcases isOutcome with rfl | ⟨fault, rfl, isUnclosed⟩
    · cases notBoundary
    · exact absurd (isUnclosed.symm.trans notBoundary) (by decide)
  · have isParse : catalog.parse tokens stop = parse.after events concepts :=
      parse_eq_after steps halts
    have isWhole : catalog.parse (tokens ++ later) wholeStop =
        (parse.extend later wholeStop).after (events.map (Event.extend later wholeStop))
          concepts :=
      parse_eq_after (steps.extend later wholeStop) (halts.extend bounded later wholeStop)
    rw [isWhole, isParse]
    simp [Parse.extend, after]

/-- Where all tokens are gone past, a parse of more tokens goes on behind them. -/
theorem parse_append_of_atBoundary
    (isBoundary : (catalog.parse tokens stop).atBoundary = true)
    (later : List Token) (wholeStop : Nat) :
    ∃ (concepts : List Concept) (behind : Parse),
      (∀ moves, Trace catalog (.initial tokens stop) moves →
        moves.filterMap Move.concept? = concepts) ∧
      (∀ read, (catalog.parse tokens stop).outcome = .ok read → read = concepts) ∧
      catalog.parse (tokens ++ later) wholeStop =
        behind.after ((catalog.parse tokens stop).events.map (Event.extend later wholeStop))
          concepts := by
  obtain ⟨events, concepts, stack, steps⟩ := exists_steps_of_atBoundary isBoundary
  obtain ⟨outcome, halts, isOutcome⟩ := exists_halts_at_end catalog stack tokens.reverse stop
  have isParse : catalog.parse tokens stop = after events concepts ⟨[], outcome⟩ :=
    parse_eq_after steps halts
  refine ⟨concepts, State.parse catalog ⟨stack, ⟨tokens.reverse, later, wholeStop⟩⟩, ?_, ?_, ?_⟩
  · intro moves trace
    exact trace.concepts_eq steps halts
  · intro read isRead
    rw [isParse] at isRead
    rcases isOutcome with rfl | ⟨fault, rfl, -⟩
    · simpa [after, Except.map] using isRead.symm
    · cases isRead
  · simp only [isParse, after, List.append_nil]
    exact parse_of_steps (steps.extend later wholeStop)

end Parse

namespace Catalog

open Parse

/-- **A parse is local.** Tokens that end in a mark are parsed in the same way whatever follows: a
fault in front of the mark is found again after the same events. Where there is none, apart from
braces that are missing at the end, further tokens add to the events and to the concepts. -/
theorem parse_append_of_mark
    (catalog : Catalog) {tokens : List Token} {mark : Token}
    (isLast : tokens.getLast? = some mark)
    (isMark : mark.isMark = true)
    (later : List Token) (stop wholeStop : Nat) :
    let front := catalog.parse tokens stop
    let whole := catalog.parse (tokens ++ later) wholeStop
    let sameEvents := front.events.map (Event.extend later wholeStop)
    (∀ fault, front.outcome = .error fault → fault.cause.isUnclosed = false →
        whole.outcome = .error fault ∧ whole.events = sameEvents) ∧
      ((∀ fault, front.outcome = .error fault → fault.cause.isUnclosed = true) →
        sameEvents <+: whole.events ∧
        ∃ moves,
          (∀ others, Trace catalog (.initial tokens stop) others ↔ others = moves) ∧
          (∀ read, front.outcome = .ok read → read = moves.filterMap Move.concept?) ∧
          ∀ concepts, whole.outcome = .ok concepts →
            moves.filterMap Move.concept? <+: concepts) := by
  intro front whole sameEvents
  have isEnd : ∀ last ∈ tokens.getLast?, last.isBarrier = true := by
    intro last isOther
    obtain rfl := Option.some.inj (isLast.symm.trans isOther)
    exact Token.isBarrier_of_isMark isMark
  refine ⟨?_, ?_⟩
  · intro fault isFault notUnclosed
    have notBoundary : front.atBoundary = false := by
      rw [atBoundary, isFault]
      exact notUnclosed
    have isWhole : whole = front.extend later wholeStop :=
      parse_append_of_fault isEnd notBoundary later wholeStop
    rw [isWhole]
    exact ⟨isFault, rfl⟩
  · intro onlyUnclosed
    have isBoundary : front.atBoundary = true := by
      unfold atBoundary
      split
      · rfl
      · next fault isFault => exact onlyUnclosed fault isFault
    obtain ⟨concepts, behind, isRead, isOutcome, isWhole⟩ :=
      parse_append_of_atBoundary isBoundary later wholeStop
    obtain ⟨moves, isTrace⟩ := exists_unique_trace catalog (.initial tokens stop)
    obtain rfl := isRead moves ((isTrace moves).2 rfl)
    have wholeEq : whole = behind.after sameEvents (moves.filterMap Move.concept?) := isWhole
    rw [wholeEq]
    refine ⟨List.prefix_append _ _, moves, isTrace, isOutcome, ?_⟩
    · intro concepts isOk
      cases isBehind : behind.outcome with
      | error fault => simp [after, isBehind, Except.map] at isOk
      | ok more =>
        simp only [after, isBehind, Except.map, Except.ok.injEq] at isOk
        rw [← isOk]
        exact List.prefix_append _ _

/-- Two types of one keyword, the longer one of which begins like the other. -/
def namesAndLinks : Catalog :=
  ⟨[⟨"Name", some "part", "", ["Name"], [⟨"Is", .text, none⟩]⟩,
    ⟨"Link", some "part", "", ["Name"], [⟨"From", .reference, none⟩, ⟨"To", .text, none⟩]⟩],
    by decide +kernel⟩

/-- A link inside of a block that is still open. -/
def linkInBlock : List Token :=
  (Scan.ofChars "part a \x7b part b.c d;".toList).tokens

/-- The link lacks a member, so it is taken for a name. -/
def brokenLink : List Token :=
  (Scan.ofChars "part a \x7b part b.c;".toList).tokens

/-- What may follow both. -/
def closesBlock : List Token :=
  (Scan.ofChars "part e; \x7d".toList).tokens

/-- Behind the link the parse goes on, and behind the broken one it does not. -/
theorem parse_append_behind_link :
    (linkInBlock.getLast? = some ⟨.special, ";", 19, 20⟩ ∧
        (namesAndLinks.parse linkInBlock 20).outcome =
          .error ⟨.unclosedConcept "part a", 20⟩ ∧
        (namesAndLinks.parse linkInBlock 20).events.map (Event.extend closesBlock 30) <+:
          (namesAndLinks.parse (linkInBlock ++ closesBlock) 30).events) ∧
      (brokenLink.getLast? = some ⟨.special, ";", 17, 18⟩ ∧
        (namesAndLinks.parse brokenLink 18).outcome =
          .error ⟨.terminatorExpected "part b", 15⟩ ∧
        (namesAndLinks.parse (brokenLink ++ closesBlock) 28).outcome =
          .error ⟨.terminatorExpected "part b", 15⟩) := by
  have isLast : linkInBlock.getLast? = some ⟨.special, ";", 19, 20⟩ := by decide +kernel
  have isUnclosed : (namesAndLinks.parse linkInBlock 20).outcome =
      .error ⟨.unclosedConcept "part a", 20⟩ := by
    decide +kernel
  have brokenLast : brokenLink.getLast? = some ⟨.special, ";", 17, 18⟩ := by decide +kernel
  have isBroken : (namesAndLinks.parse brokenLink 18).outcome =
      .error ⟨.terminatorExpected "part b", 15⟩ := by
    decide +kernel
  have onlyUnclosed : ∀ fault, (namesAndLinks.parse linkInBlock 20).outcome = .error fault →
      fault.cause.isUnclosed = true := by
    intro fault isFault
    obtain rfl := Except.error.inj (isUnclosed.symm.trans isFault)
    rfl
  refine ⟨⟨isLast, isUnclosed, ?_⟩, brokenLast, isBroken, ?_⟩
  · exact ((parse_append_of_mark namesAndLinks isLast rfl closesBlock 20 30).2 onlyUnclosed).1
  · exact ((parse_append_of_mark namesAndLinks brokenLast rfl closesBlock 18 28).1 _ isBroken
      rfl).1

end Catalog

end ConceptScript
