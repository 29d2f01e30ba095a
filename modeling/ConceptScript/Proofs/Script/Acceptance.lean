import ConceptScript.Proofs.Script.Machine
import ConceptScript.Proofs.Script.Reading

/-!
Contract: the parser accepts exactly the scripts of the grammar.

The parser keeps the open concepts on a stack, the grammar nests them. A forest is written by the
steps that leave the stack as it was, and steps that empty the stack write a forest for every
block that is open at their start.

Owns both directions and the agreement of the concepts.

Does not own which fault is reported for a refused script.
-/

set_option autoImplicit false

namespace ConceptScript

open Grammar

namespace Parse

/-! ## What the grammar writes is accepted -/

theorem readConcept_of_chosen
    {catalog : Catalog} {stack : List Concept} {concept : Concept} {head after : List Token}
    (chosen : Chosen catalog (parentType stack) concept head after)
    (consumed : List Token) (stop : Nat) :
    ∃ keyword tail, head ++ after = keyword :: tail ∧
      (readConcept catalog stack ⟨consumed, head ++ after, stop⟩ keyword).2 =
        .ok (concept, ⟨head.reverse ++ consumed, after, stop⟩) := by
  obtain ⟨keyword, arguments, rfl⟩ : ∃ keyword arguments, head = keyword :: arguments := by
    cases chosen.written
    exact ⟨_, _, rfl⟩
  exact ⟨keyword, arguments ++ after, rfl,
    (readConcept_eq_ok_iff rfl).2 ⟨keyword :: arguments, after, rfl, rfl, chosen⟩⟩

theorem Step.of_closing
    (catalog : Catalog) (innermost : Concept) (outer : List Concept) (behind : List Token)
    (stop : Nat) {brace : Token} {consumed : List Token}
    (begun : consumed ≠ [])
    (isBrace : brace.isSpecial "\x7d" = true) :
    Step catalog ⟨innermost :: outer, ⟨consumed, brace :: behind, stop⟩⟩
      [.closed ⟨brace :: consumed, behind, stop⟩ outer] []
      ⟨outer, ⟨brace :: consumed, behind, stop⟩⟩ := by
  cases consumed with
  | nil => exact absurd rfl begun
  | cons last consumed => exact .closes isBrace

/-- The tokens of a forest are consumed by steps that read its concepts and leave the stack. -/
theorem exists_steps_of_derived
    {catalog : Catalog} {forest : Forest} {after : List Token} {stack : List Concept}
    (derived : forest.Derived catalog (parentType stack) after)
    (consumed : List Token) (stop : Nat) :
    ∃ events, Steps catalog ⟨stack, ⟨consumed, forest.tokens ++ after, stop⟩⟩ events
      forest.concepts ⟨stack, ⟨forest.tokens.reverse ++ consumed, after, stop⟩⟩ := by
  induction forest generalizing after stack consumed with
  | nil => exact ⟨[], .refl _⟩
  | plain concept head mark later laterHypothesis =>
    obtain ⟨chosen, isMark, laterDerived⟩ := derived
    obtain ⟨keyword, tail, isHead, isRead⟩ := readConcept_of_chosen chosen consumed stop
    have step := Step.ends isHead isRead isMark
    obtain ⟨events, steps⟩ := laterHypothesis laterDerived (mark :: (head.reverse ++ consumed))
    have whole := Steps.head step steps
    simp only [Forest.tokens, Forest.concepts, List.reverse_append, List.reverse_cons,
      List.append_assoc, List.cons_append, List.nil_append] at whole ⊢
    exact ⟨_, whole⟩
  | block concept head opening inner closing later innerHypothesis laterHypothesis =>
    obtain ⟨chosen, isOpening, innerDerived, isClosing, laterDerived⟩ := derived
    obtain ⟨keyword, tail, isHead, isRead⟩ := readConcept_of_chosen chosen consumed stop
    have openStep := Step.opens isHead isRead isOpening
    have innerDerived : inner.Derived catalog (parentType (concept :: stack)) _ := innerDerived
    obtain ⟨innerEvents, innerSteps⟩ := innerHypothesis innerDerived
      (opening :: (head.reverse ++ consumed))
    have begun : inner.tokens.reverse ++ opening :: (head.reverse ++ consumed) ≠ [] := by simp
    have closeStep := Step.of_closing catalog concept stack (later.tokens ++ after) stop begun
      isClosing
    obtain ⟨laterEvents, laterSteps⟩ := laterHypothesis laterDerived
      (closing :: (inner.tokens.reverse ++ opening :: (head.reverse ++ consumed)))
    have whole := Steps.head openStep (innerSteps.trans (.head closeStep laterSteps))
    simp only [Forest.tokens, Forest.concepts, List.reverse_append, List.reverse_cons,
      List.append_assoc, List.cons_append, List.nil_append] at whole ⊢
    exact ⟨_, whole⟩

/-! ## What is accepted is written by the grammar -/

/-- Tokens that close all blocks of a stack and write concepts in each of them. The concepts of the
innermost block come first. -/
inductive Spine (catalog : Catalog) : List Concept → List Token → List Concept → Prop where
  | root {forest : Forest} (derived : forest.Derived catalog none []) :
      Spine catalog [] forest.tokens forest.concepts
  | block {innermost : Concept} {outer : List Concept} {forest : Forest} {closing : Token}
      {behind : List Token} {concepts : List Concept}
      (derived : forest.Derived catalog (some innermost.type) (closing :: behind))
      (isClosing : closing.isSpecial "\x7d" = true)
      (later : Spine catalog outer behind concepts) :
      Spine catalog (innermost :: outer) (forest.tokens ++ closing :: behind)
        (forest.concepts ++ concepts)

theorem Spine.plain
    {catalog : Catalog} {stack concepts : List Concept} {concept : Concept}
    {head tokens : List Token} {mark : Token}
    (spine : Spine catalog stack tokens concepts)
    (chosen : Chosen catalog (parentType stack) concept head (mark :: tokens))
    (isMark : mark.isSpecial ";" = true) :
    Spine catalog stack (head ++ mark :: tokens) (concept :: concepts) := by
  cases spine with
  | @root forest derived =>
    have extended : (Forest.plain concept head mark forest).Derived catalog none [] :=
      ⟨by simpa using chosen, isMark, derived⟩
    exact .root extended
  | @block innermost outer forest closing behind concepts derived isClosing later =>
    have extended : (Forest.plain concept head mark forest).Derived catalog
        (some innermost.type) (closing :: behind) :=
      ⟨chosen, isMark, derived⟩
    simpa [Forest.tokens, Forest.concepts] using Spine.block extended isClosing later

/-- The innermost block of a spine, with the concept that opens it, moves into the next one. -/
theorem Spine.nest
    {catalog : Catalog} {stack concepts : List Concept} {concept : Concept}
    {head tokens : List Token} {opening : Token}
    (spine : Spine catalog (concept :: stack) tokens concepts)
    (chosen : Chosen catalog (parentType stack) concept head (opening :: tokens))
    (isOpening : opening.isSpecial "\x7b" = true) :
    Spine catalog stack (head ++ opening :: tokens) (concept :: concepts) := by
  cases spine with
  | @block _ _ inner closing behind innerConcepts innerDerived isClosing spine =>
    cases spine with
    | @root forest derived =>
      have extended : (Forest.block concept head opening inner closing forest).Derived catalog
          none [] :=
        ⟨by simpa using chosen, isOpening, by simpa using innerDerived, isClosing, derived⟩
      simpa [Forest.tokens, Forest.concepts] using Spine.root extended
    | @block innermost outer forest outerClosing outerBehind outerConcepts derived outerClosed
        later =>
      have extended : (Forest.block concept head opening inner closing forest).Derived catalog
          (some innermost.type) (outerClosing :: outerBehind) :=
        ⟨by simpa using chosen, isOpening, by simpa using innerDerived, isClosing, derived⟩
      simpa [Forest.tokens, Forest.concepts] using Spine.block extended outerClosed later

/-- Steps to the end of a script that leave no block open have read a spine. -/
theorem spine_of_steps
    {catalog : Catalog} {state halted : State} {events : List Event} {concepts : List Concept}
    (steps : Steps catalog state events concepts halted)
    (noneOpen : halted.stack = [])
    (atEnd : halted.reader.rest = []) :
    Spine catalog state.stack state.reader.rest concepts := by
  induction steps with
  | refl state =>
    rw [noneOpen, atEnd]
    exact @Spine.root catalog .nil trivial
  | head step _ inductionHypothesis =>
    have spine := inductionHypothesis noneOpen atEnd
    cases step with
    | closes isBrace =>
      exact @Spine.block catalog _ _ .nil _ _ _ trivial isBrace spine
    | @ends stack reader keyword mark tail concept consumed behind stop isRest isRead isMark =>
      obtain ⟨head, after, isHead, isNext, chosen⟩ := (readConcept_eq_ok_iff isRest).1 isRead
      obtain rfl : mark :: behind = after := congrArg Reader.rest isNext
      rw [← isHead]
      exact spine.plain chosen isMark
    | @opens stack reader keyword mark tail concept consumed behind stop isRest isRead isMark =>
      obtain ⟨head, after, isHead, isNext, chosen⟩ := (readConcept_eq_ok_iff isRest).1 isRead
      obtain rfl : mark :: behind = after := congrArg Reader.rest isNext
      rw [← isHead]
      exact spine.nest chosen isMark

/-! ## Acceptance -/

/-- Only the end of a script, outside of all blocks, is accepted. -/
theorem outcome_eq_ok_iff
    {catalog : Catalog} {state : State} {concepts : List Concept} :
    (state.parse catalog).outcome = .ok concepts ↔
      ∃ events consumed stop,
        Steps catalog state events concepts ⟨[], ⟨consumed, [], stop⟩⟩ := by
  constructor
  · intro accepted
    obtain ⟨events, read, halted, parse, steps, halts⟩ := exists_steps_halts catalog state
    rw [parse_eq_after steps halts] at accepted
    cases halts with
    | @finished consumed stop =>
      obtain rfl : read = concepts := by simpa [after, Except.map] using accepted
      exact ⟨events, consumed, stop, steps⟩
    | unclosed => cases accepted
    | unopened => cases accepted
    | unread => cases accepted
    | unended => cases accepted
  · rintro ⟨events, consumed, stop, steps⟩
    rw [parse_eq_after steps .finished]
    simp [after, Except.map]

end Parse

/-- A script is accepted, with the given concepts, exactly if it is written by a forest of these
concepts. The offset at which faults at the end are reported has no part in it. -/
theorem Catalog.parse_eq_ok_iff_derived
    (catalog : Catalog) (tokens : List Token) (stop : Nat) (concepts : List Concept) :
    (catalog.parse tokens stop).outcome = .ok concepts ↔
      ∃ forest : Forest,
        forest.Derived catalog none [] ∧ forest.tokens = tokens ∧ forest.concepts = concepts := by
  rw [← Parse.parse_initial, Parse.outcome_eq_ok_iff]
  constructor
  · rintro ⟨events, consumed, finalStop, steps⟩
    have spine := Parse.spine_of_steps steps rfl rfl
    generalize isStack : (Parse.State.initial tokens stop).stack = stack at spine
    generalize isRest : (Parse.State.initial tokens stop).reader.rest = rest at spine
    cases spine with
    | @root forest derived => exact ⟨forest, derived, isRest.symm, rfl⟩
    | block => cases isStack
  · rintro ⟨forest, derived, rfl, rfl⟩
    have derived : forest.Derived catalog (Parse.parentType []) [] := derived
    obtain ⟨events, steps⟩ := Parse.exists_steps_of_derived derived [] stop
    rw [List.append_nil] at steps
    exact ⟨events, _, stop, steps⟩

end ConceptScript
