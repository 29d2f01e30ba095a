import ConceptScript.Proofs.Analysis.ActiveKeyword
import ConceptScript.Proofs.Script.Reading
import Mathlib.Data.List.Chain

/-!
Contract: the blocks that are open at an offset, told from the moves of the parse.

A block runs from the brace behind a concept to the brace that closes it, which is found by counting
the blocks in between. A cursor does not count: it takes over the open concepts at every brace in
front of the offset. What it ends with are the concepts whose blocks the offset is in.

Owns blocks, when one is open at an offset, and that every open block is allowed in the one around
it.

Does not own the keyword that is active.
-/

set_option autoImplicit false

namespace ConceptScript

/-! ## Blocks -/

/-- A concept with the brace that opens its block, and the one that closes it where it is
consumed. -/
structure Block where
  concept : Concept
  opening : Token
  closing : Option Token
  deriving DecidableEq

namespace Block

/-- The brace that closes the block around the given number of others. -/
def closing? : (depth : Nat) → List Parse.Move → Option Token
  | _, [] => none
  | depth, .reads _ _ mark :: moves =>
    if mark.isSpecial "\x7b" then closing? (depth + 1) moves else closing? depth moves
  | 0, .closes brace :: _ => some brace
  | depth + 1, .closes _ :: moves => closing? depth moves
  | depth, .breaksOff _ :: moves => closing? depth moves

/-- The blocks that the moves open, in the order in which they are opened. -/
def ofMoves : List Parse.Move → List Block
  | [] => []
  | .reads concept _ mark :: moves =>
    if mark.isSpecial "\x7b" then ⟨concept, mark, closing? 0 moves⟩ :: ofMoves moves
    else ofMoves moves
  | .closes _ :: moves => ofMoves moves
  | .breaksOff _ :: moves => ofMoves moves

/-- Whether a block with this end is not yet closed at an offset. -/
def isUnclosedAt (offset : Nat) (closing : Option Token) : Bool :=
  closing.all fun brace => offset < brace.stop

/-- Whether an offset lies behind the opening brace, and not behind the closing one. -/
def isOpenAt (offset : Nat) (block : Block) : Bool :=
  block.opening.stop ≤ offset && isUnclosedAt offset block.closing

/-- The concepts whose blocks are open at an offset, outermost first. -/
def conceptsAt (offset : Nat) (moves : List Parse.Move) : List Concept :=
  ((ofMoves moves).filter (isOpenAt offset)).map concept

/-! ## Blocks that were opened before -/

/-- Of the concepts whose blocks are open already, those that an offset is still in. The innermost
comes first, and `closings` gives the end of each by its depth. -/
def stillOpen (offset : Nat) (closings : Nat → Option Token) : List Concept → List Concept
  | [] => []
  | innermost :: outer =>
    (if isUnclosedAt offset (closings 0) then [innermost] else []) ++
      stillOpen offset (fun depth => closings (depth + 1)) outer

theorem stillOpen_of_unclosed
    {offset : Nat} {closings : Nat → Option Token}
    (unclosed : ∀ depth, isUnclosedAt offset (closings depth) = true)
    (stack : List Concept) :
    stillOpen offset closings stack = stack := by
  induction stack generalizing closings with
  | nil => rfl
  | cons innermost outer inductionHypothesis =>
    rw [stillOpen, if_pos (unclosed 0), inductionHypothesis fun depth => unclosed (depth + 1)]
    rfl

/-- The concepts whose blocks are open at an offset, innermost first, with those of a stack that
were opened before the moves. -/
def openConcepts (offset : Nat) (moves : List Parse.Move) (stack : List Concept) : List Concept :=
  (conceptsAt offset moves).reverse ++ stillOpen offset (fun depth => closing? depth moves) stack

section Moves

variable {offset : Nat} {mark : Token}

theorem openConcepts_ends
    (noBlock : mark.isSpecial "\x7b" = false)
    (concept : Concept) (keyword : Token) (moves : List Parse.Move) (stack : List Concept) :
    openConcepts offset (.reads concept keyword mark :: moves) stack =
      openConcepts offset moves stack := by
  simp [openConcepts, conceptsAt, ofMoves, closing?, noBlock]

theorem openConcepts_opens
    (isBlock : mark.isSpecial "\x7b" = true)
    (isBefore : mark.stop ≤ offset)
    (concept : Concept) (keyword : Token) (moves : List Parse.Move) (stack : List Concept) :
    openConcepts offset (.reads concept keyword mark :: moves) stack =
      openConcepts offset moves (concept :: stack) := by
  by_cases unclosed : isUnclosedAt offset (closing? 0 moves) = true <;>
    simp [openConcepts, conceptsAt, ofMoves, closing?, isBlock, stillOpen, isOpenAt, isBefore,
      unclosed]

theorem openConcepts_closes
    (isBefore : mark.stop ≤ offset)
    (moves : List Parse.Move) (innermost : Concept) (outer : List Concept) :
    openConcepts offset (.closes mark :: moves) (innermost :: outer) =
      openConcepts offset moves outer := by
  have closed : isUnclosedAt offset (some mark) = false := by
    simpa [isUnclosedAt] using isBefore
  simp [openConcepts, conceptsAt, ofMoves, closing?, stillOpen, closed]

end Moves

/-! ## Moves behind the offset -/

/-- The mark or brace of a move ends behind an offset. -/
def EndsBehind (offset : Nat) : Parse.Move → Prop
  | .reads _ _ mark => offset < mark.stop
  | .closes brace => offset < brace.stop
  | .breaksOff _ => True

theorem endsBehind_of_late
    {offset : Nat} {move : Parse.Move}
    (late : Construct.Late offset move.tokens) :
    EndsBehind offset move := by
  cases move with
  | reads concept keyword mark => exact (late mark (by simp [Parse.Move.tokens])).2
  | closes brace => exact (late brace (by simp [Parse.Move.tokens])).2
  | breaksOff keyword => trivial

theorem unclosed_of_endsBehind
    {offset : Nat} {moves : List Parse.Move}
    (behind : ∀ move ∈ moves, EndsBehind offset move)
    (depth : Nat) :
    isUnclosedAt offset (closing? depth moves) = true := by
  fun_induction closing? depth moves with
  | case1 => rfl
  | case2 depth concept keyword mark moves isBlock inductionHypothesis =>
    exact inductionHypothesis fun move isMove => behind move (List.mem_cons_of_mem _ isMove)
  | case3 depth concept keyword mark moves noBlock inductionHypothesis =>
    exact inductionHypothesis fun move isMove => behind move (List.mem_cons_of_mem _ isMove)
  | case4 brace moves =>
    have isBehind : offset < brace.stop := behind (.closes brace) List.mem_cons_self
    simpa [isUnclosedAt] using isBehind
  | case5 depth brace moves inductionHypothesis =>
    exact inductionHypothesis fun move isMove => behind move (List.mem_cons_of_mem _ isMove)
  | case6 depth keyword moves inductionHypothesis =>
    exact inductionHypothesis fun move isMove => behind move (List.mem_cons_of_mem _ isMove)

theorem conceptsAt_of_endsBehind
    {offset : Nat} {moves : List Parse.Move}
    (behind : ∀ move ∈ moves, EndsBehind offset move) :
    conceptsAt offset moves = [] := by
  induction moves with
  | nil => rfl
  | cons move moves inductionHypothesis =>
    have laterNothing := inductionHypothesis fun later isLater =>
      behind later (List.mem_cons_of_mem move isLater)
    cases move with
    | reads concept keyword mark =>
      have notBefore : ¬ mark.stop ≤ offset := by
        have markBehind : offset < mark.stop := behind (.reads concept keyword mark) (by simp)
        omega
      rw [conceptsAt, ofMoves]
      split
      · rw [List.filter_cons_of_neg (by simp [isOpenAt, notBefore])]
        exact laterNothing
      · exact laterNothing
    | closes brace => exact laterNothing
    | breaksOff keyword => exact laterNothing

/-- Nothing behind an offset changes which blocks are open at it. -/
theorem openConcepts_of_endsBehind
    {offset : Nat} {moves : List Parse.Move}
    (behind : ∀ move ∈ moves, EndsBehind offset move)
    (stack : List Concept) :
    openConcepts offset moves stack = stack := by
  rw [openConcepts, conceptsAt_of_endsBehind behind,
    stillOpen_of_unclosed (unclosed_of_endsBehind behind)]
  rfl

end Block

/-! ## The context along the moves -/

namespace Construct

variable {catalog : Catalog} {state later : Parse.State} {events : List Event}
  {concepts : List Concept} {offset : Nat} {construct : Construct}

theorem context_at_keyword
    (offset : Nat) (construct : Construct) (reader : Reader) (word : Option String) :
    (step offset construct (.keyword reader word)).context = construct.context := by
  simp only [step]
  split
  · split <;> rfl
  · rfl

theorem context_onContext
    (offset : Nat) (construct : Construct) (last : Token) (consumed behind : List Token)
    (stop : Nat) (stack : List Concept) :
    (onContext offset construct ⟨last :: consumed, behind, stop⟩ stack).context =
      if last.stop ≤ offset then stack else construct.context := by
  simp only [onContext, Reader.last?, List.head?_cons]
  split <;> rfl

/-- A step in front of the offset brings the context to the open concepts behind it. -/
theorem context_after_step
    {last : Token}
    (step : Parse.Step catalog state events concepts later)
    (isLast : later.reader.last? = some last)
    (isContext : construct.context = state.stack) :
    (after offset events construct).context =
      if last.stop ≤ offset then later.stack else state.stack := by
  cases step with
  | closes isBrace =>
    obtain rfl := Option.some.inj isLast
    rw [after_cons, after_nil, Construct.step, context_onContext, isContext]
  | ends isRest isRead =>
    rw [after_append, after_readConcept, after_cons, after_nil, context_at_keyword,
      context_at_keyword, isContext, ite_self]
  | @opens stack reader keyword mark tail concept consumed behind stop isRest isRead =>
    obtain rfl := Option.some.inj isLast
    rw [after_append, after_readConcept, after_cons, after_cons, after_nil, context_at_keyword]
    refine (context_onContext offset _ mark consumed behind stop (concept :: stack)).trans ?_
    rw [context_at_keyword, isContext]

theorem context_after_halts
    {parse : Parse}
    (halts : Parse.Halts catalog state parse) :
    (after offset parse.events construct).context = construct.context := by
  cases halts with
  | finished => rfl
  | unclosed => rfl
  | unopened => rfl
  | unread => rw [after_readConcept, context_at_keyword]
  | unended => rw [after_readConcept, context_at_keyword]

/-- Where a step ends behind the offset, the context stays as it was in front of the step. -/
theorem context_after_parse_of_behind
    {last : Token}
    (step : Parse.Step catalog state events concepts later)
    (isLast : later.reader.last? = some last)
    (isBehind : offset < last.stop)
    (laid : Token.Laid state.reader.tokens)
    (quiet : Quiet offset construct state.reader)
    (isContext : construct.context = state.stack) :
    (after offset (state.parse catalog).events construct).context = state.stack := by
  have restLate := (laid.of_step step).late_rest isLast isBehind
  have laterQuiet := quiet_step step laid.starts_increase quiet
  rw [Parse.parse_of_step step, Parse.after, after_append,
    after_parse_of_late catalog restLate laterQuiet, context_after_step step isLast isContext,
    if_neg (by omega)]

theorem endsBehind_of_goesOn
    {last : Token} {moves : List Parse.Move}
    (laid : Token.Laid later.reader.tokens)
    (isLast : later.reader.last? = some last)
    (isBehind : offset < last.stop)
    (goesOn : Parse.Trace catalog later moves) :
    ∀ move ∈ moves, Block.EndsBehind offset move := by
  intro move isMove
  apply Block.endsBehind_of_late
  intro token isToken
  exact laid.late_rest isLast isBehind token (goesOn.mem_rest move isMove token isToken)

/-- The first move of a trace, given what the later ones come to. In front of the offset it has to
change the open concepts as its step changes the stack. Behind the offset nothing changes any
more. -/
theorem context_after_move
    {last : Token} {move : Parse.Move} {moves : List Parse.Move}
    (step : Parse.Step catalog state events concepts later)
    (isLast : later.reader.last? = some last)
    (goesOn : Parse.Trace catalog later moves)
    (laid : Token.Laid state.reader.tokens)
    (quiet : Quiet offset construct state.reader)
    (isContext : construct.context = state.stack)
    (laterContext : ∀ construct : Construct, Quiet offset construct later.reader →
      construct.context = later.stack →
      (after offset (later.parse catalog).events construct).context =
        Block.openConcepts offset moves later.stack)
    (isBefore : last.stop ≤ offset → Block.openConcepts offset moves later.stack =
      Block.openConcepts offset (move :: moves) state.stack)
    (isBehind : offset < last.stop → Block.EndsBehind offset move) :
    (after offset (state.parse catalog).events construct).context =
      Block.openConcepts offset (move :: moves) state.stack := by
  by_cases lastBefore : last.stop ≤ offset
  · have isLater : (after offset events construct).context = later.stack := by
      rw [context_after_step step isLast isContext, if_pos lastBefore]
    rw [Parse.parse_of_step step, Parse.after, after_append,
      laterContext _ (quiet_step step laid.starts_increase quiet) isLater, isBefore lastBefore]
  · have lastBehind : offset < last.stop := by omega
    have movesBehind := endsBehind_of_goesOn (laid.of_step step) isLast lastBehind goesOn
    rw [context_after_parse_of_behind step isLast lastBehind laid quiet isContext,
      Block.openConcepts_of_endsBehind]
    exact List.forall_mem_cons.2 ⟨isBehind lastBehind, movesBehind⟩

/-- From a state between two concepts, the context is that of the blocks the offset is in. -/
theorem context_after_parse
    {moves : List Parse.Move}
    (trace : Parse.Trace catalog state moves)
    (laid : Token.Laid state.reader.tokens)
    (quiet : Quiet offset construct state.reader)
    (isContext : construct.context = state.stack) :
    (after offset (state.parse catalog).events construct).context =
      Block.openConcepts offset moves state.stack := by
  induction trace generalizing construct with
  | reads step isKeyword isMark goesOn inductionHypothesis =>
    refine context_after_move step isMark goesOn laid quiet isContext
      (fun _ => inductionHypothesis (laid.of_step step)) ?_ id
    intro markBefore
    cases step with
    | ends isRest isRead isSemicolon =>
      obtain rfl := Option.some.inj isMark
      have noBlock := Parse.isSpecial_unique isSemicolon (by decide : ";" ≠ "\x7b")
      rw [Block.openConcepts_ends noBlock]
    | opens isRest isRead isBlock =>
      obtain rfl := Option.some.inj isMark
      rw [Block.openConcepts_opens isBlock markBefore]
  | closes step isBrace goesOn inductionHypothesis =>
    refine context_after_move step isBrace goesOn laid quiet isContext
      (fun _ => inductionHypothesis (laid.of_step step)) ?_ id
    intro braceBefore
    cases step with
    | closes =>
      obtain rfl := Option.some.inj isBrace
      rw [Block.openConcepts_closes braceBefore]
  | breaksOff halts =>
    rw [Parse.parse_of_halts halts, context_after_halts halts, isContext,
      Block.openConcepts_of_endsBehind]
    exact List.forall_mem_singleton.2 trivial
  | stops halts =>
    rw [Parse.parse_of_halts halts, context_after_halts halts, isContext,
      Block.openConcepts_of_endsBehind]
    exact List.forall_mem_nil _

/-! ## Open blocks are allowed in each other -/

/-- Every concept is of a type that lists the type of the one around it. The innermost comes
first. -/
def Nested (stack : List Concept) : Prop :=
  stack.IsChain fun inner outer => outer.typeName ∈ inner.type.parents

theorem nested_step
    (step : Parse.Step catalog state events concepts later)
    (nested : Nested state.stack) :
    Nested later.stack := by
  cases step with
  | closes isBrace => exact nested.tail
  | ends isRest isRead isMark => exact nested
  | opens isRest isRead isMark =>
    exact List.isChain_cons.2 ⟨Parse.mem_parents_of_readConcept isRest isRead, nested⟩

/-- The context is taken over from the open concepts somewhere on the way, so it is nested as they
are. -/
theorem nested_after_parse
    (catalog : Catalog) (state : Parse.State)
    (laid : Token.Laid state.reader.tokens)
    (quiet : Quiet offset construct state.reader)
    (isContext : construct.context = state.stack)
    (nested : Nested state.stack) :
    Nested (after offset (state.parse catalog).events construct).context := by
  obtain ⟨events, concepts, halted, parse, steps, halts⟩ :=
    Parse.exists_steps_halts catalog state
  induction steps generalizing construct with
  | refl =>
    rw [Parse.parse_of_halts halts, context_after_halts halts, isContext]
    exact nested
  | @head state later _ events _ concepts _ step _ inductionHypothesis =>
    obtain ⟨last, isLast⟩ := step.exists_last
    by_cases lastBefore : last.stop ≤ offset
    · have laterContext : (after offset events construct).context = later.stack := by
        rw [context_after_step step isLast isContext, if_pos lastBefore]
      rw [Parse.parse_of_step step, Parse.after, after_append]
      exact inductionHypothesis (laid.of_step step) (quiet_step step laid.starts_increase quiet)
        laterContext (nested_step step nested) halts
    · rw [context_after_parse_of_behind step isLast (by omega) laid quiet isContext]
      exact nested

end Construct

namespace Cursor

open Parse in
/-- **The context is the list of open blocks.** Every parse has exactly one list of moves. The
recorded context is made of the blocks among them that are open at the offset, and each of these is
of a type that may stand inside of the one around it. -/
theorem context_eq_open_blocks (catalog : Catalog) (text : Text) (offset : Nat) :
    ∃ moves,
      (∀ others, Trace catalog
          (.initial (Stream.ofText text).tokens (Stream.ofText text).stop) others ↔
        others = moves) ∧
      (ofEvents (.ofTokens (Stream.ofText text).tokens offset)
          (catalog.parse (Stream.ofText text).tokens
            (Stream.ofText text).stop).events).context.reverse =
        ((Block.ofMoves moves).filter (Block.isOpenAt offset)).map Block.concept ∧
      (ofEvents (.ofTokens (Stream.ofText text).tokens offset)
          (catalog.parse (Stream.ofText text).tokens
            (Stream.ofText text).stop).events).context.reverse.IsChain
        fun outer inner => outer.typeName ∈ inner.type.parents := by
  let tokens := (Stream.ofText text).tokens
  let stop := (Stream.ofText text).stop
  obtain ⟨moves, isTrace⟩ := exists_unique_trace catalog (.initial tokens stop)
  have isContext := congrArg Construct.context (Construct.construct_ofEvents
    (.ofTokens tokens offset) (catalog.parse tokens stop).events)
  have found : (Construct.after offset (catalog.parse tokens stop).events {}).context =
      Block.openConcepts offset moves [] :=
    Construct.context_after_parse ((isTrace moves).2 rfl) (Stream.laid_tokens text) (.inl rfl) rfl
  have nested : Construct.Nested
      (Construct.after offset (catalog.parse tokens stop).events {}).context :=
    Construct.nested_after_parse catalog (.initial tokens stop) (Stream.laid_tokens text)
      (.inl rfl) rfl .nil
  refine ⟨moves, isTrace, ?_, ?_⟩
  · calc
      _ = (Construct.after offset (catalog.parse tokens stop).events {}).context.reverse :=
        congrArg List.reverse isContext
      _ = (Block.openConcepts offset moves []).reverse := congrArg List.reverse found
      _ = _ := by
        rw [Block.openConcepts, Block.stillOpen, List.append_nil, List.reverse_reverse,
          Block.conceptsAt]
  · exact List.isChain_reverse.2 ((congrArg Construct.Nested isContext).mpr nested)

end Cursor

end ConceptScript
