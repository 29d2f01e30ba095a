import ConceptScript.Proofs.Script.Locality

/-!
Contract: what a parse consumes, move by move.

A move is a concept up to the mark behind it, or the brace of a block. The last move may be a
keyword alone, at which the parse breaks off. Moves are told from the steps of the parse and not
from what the steps report.

Owns that every parse has exactly one trace, and that the tokens of a trace are tokens to come.

Does not own what is reported on the way.
-/

set_option autoImplicit false

namespace ConceptScript

theorem Reader.peek?_of_rest
    {reader : Reader} {token : Token} {tail : List Token}
    (isRest : reader.rest = token :: tail) :
    reader.peek? = some token := by
  rw [peek?, isRest, List.head?_cons]

namespace Parse

/-! ## Steps and halts exclude each other -/

/-- No concept starts with a brace. -/
theorem readConcept_ne_ok_of_brace
    {catalog : Catalog} {stack : List Concept} {reader : Reader} {keyword brace : Token}
    {tail : List Token} {reading : Concept × Reader}
    (isRest : reader.rest = keyword :: tail)
    (isNext : reader.peek? = some brace)
    (isBrace : brace.isSpecial "\x7d" = true) :
    (readConcept catalog stack reader keyword).2 ≠ .ok reading := by
  intro isRead
  rw [not_brace_of_readConcept isRest isRead brace isNext] at isBrace
  cases isBrace

/-- Where a concept is read up to its mark, the step goes past the mark. -/
theorem Step.eq_of_read
    {catalog : Catalog} {stack : List Concept} {reader : Reader} {keyword mark : Token}
    {tail consumed behind : List Token} {stop : Nat} {concept : Concept} {events : List Event}
    {concepts : List Concept} {later : State}
    (isRest : reader.rest = keyword :: tail)
    (isRead : (readConcept catalog stack reader keyword).2 =
      .ok (concept, ⟨consumed, mark :: behind, stop⟩))
    (step : Step catalog ⟨stack, reader⟩ events concepts later) :
    concepts = [concept] ∧
      later = ⟨if mark.isSpecial "\x7b" then concept :: stack else stack,
        ⟨mark :: consumed, behind, stop⟩⟩ := by
  cases step with
  | closes isBrace =>
    exact absurd isRead (readConcept_ne_ok_of_brace isRest rfl isBrace)
  | ends otherRest otherRead isMark =>
    obtain ⟨rfl, -⟩ := List.cons.inj (isRest.symm.trans otherRest)
    cases isRead.symm.trans otherRead
    have notBrace : mark.isSpecial "\x7b" = false := isSpecial_unique isMark (by decide)
    exact ⟨rfl, by simp [notBrace]⟩
  | opens otherRest otherRead isMark =>
    obtain ⟨rfl, -⟩ := List.cons.inj (isRest.symm.trans otherRest)
    cases isRead.symm.trans otherRead
    exact ⟨rfl, by simp [isMark]⟩

/-- There is one step from a state at most. -/
theorem Step.unique
    {catalog : Catalog} {state later otherLater : State} {events otherEvents : List Event}
    {concepts otherConcepts : List Concept}
    (step : Step catalog state events concepts later)
    (other : Step catalog state otherEvents otherConcepts otherLater) :
    concepts = otherConcepts ∧ later = otherLater := by
  cases step with
  | closes isBrace =>
    cases other with
    | closes => exact ⟨rfl, rfl⟩
    | ends isRest isRead => cases (eq_of_read isRest isRead (.closes isBrace)).1
    | opens isRest isRead => cases (eq_of_read isRest isRead (.closes isBrace)).1
  | ends isRest isRead isMark =>
    obtain ⟨isConcept, isLater⟩ := eq_of_read isRest isRead (.ends isRest isRead isMark)
    obtain ⟨otherConcept, otherState⟩ := eq_of_read isRest isRead other
    exact ⟨isConcept.trans otherConcept.symm, isLater.trans otherState.symm⟩
  | opens isRest isRead isMark =>
    obtain ⟨isConcept, isLater⟩ := eq_of_read isRest isRead (.opens isRest isRead isMark)
    obtain ⟨otherConcept, otherState⟩ := eq_of_read isRest isRead other
    exact ⟨isConcept.trans otherConcept.symm, isLater.trans otherState.symm⟩

/-- A state that has halted has no step. -/
theorem Halts.not_step
    {catalog : Catalog} {state later : State} {parse : Parse} {events : List Event}
    {concepts : List Concept}
    (halts : Halts catalog state parse) :
    ¬ Step catalog state events concepts later := by
  intro step
  cases halts with
  | finished => exact Nat.not_lt_zero _ step.shorter
  | unclosed => exact Nat.not_lt_zero _ step.shorter
  | unopened isBrace =>
    cases step with
    | ends isRest isRead => exact readConcept_ne_ok_of_brace isRest rfl isBrace isRead
    | opens isRest isRead => exact readConcept_ne_ok_of_brace isRest rfl isBrace isRead
  | unread isRest atConcept isFault =>
    cases step with
    | closes isBrace =>
      obtain ⟨rfl, -⟩ := List.cons.inj isRest
      rcases atConcept with nothing | notBrace
      · cases nothing
      · rw [isBrace] at notBrace
        cases notBrace
    | ends otherRest isRead =>
      obtain ⟨rfl, -⟩ := List.cons.inj (isRest.symm.trans otherRest)
      cases isFault.symm.trans isRead
    | opens otherRest isRead =>
      obtain ⟨rfl, -⟩ := List.cons.inj (isRest.symm.trans otherRest)
      cases isFault.symm.trans isRead
  | unended isRest isRead noMark =>
    cases step with
    | closes isBrace => exact readConcept_ne_ok_of_brace isRest rfl isBrace isRead
    | ends otherRest otherRead isMark =>
      obtain ⟨rfl, -⟩ := List.cons.inj (isRest.symm.trans otherRest)
      cases isRead.symm.trans otherRead
      rw [(noMark _ rfl).2] at isMark
      cases isMark
    | opens otherRest otherRead isMark =>
      obtain ⟨rfl, -⟩ := List.cons.inj (isRest.symm.trans otherRest)
      cases isRead.symm.trans otherRead
      rw [(noMark _ rfl).1] at isMark
      cases isMark

/-! ## Moves -/

inductive Move where
  /-- A concept from its keyword up to the mark that ends it or opens its block. -/
  | reads (concept : Concept) (keyword mark : Token)
  /-- The brace that ends a block. -/
  | closes (brace : Token)
  /-- The keyword of a concept that is refused, or that no mark follows. -/
  | breaksOff (keyword : Token)
  deriving DecidableEq

/-- The moves of a parse from a state on. -/
inductive Trace (catalog : Catalog) : State → List Move → Prop where
  | reads
      {state later : State} {events : List Event} {concept : Concept} {keyword mark : Token}
      {moves : List Move}
      (step : Step catalog state events [concept] later)
      (isKeyword : state.reader.peek? = some keyword)
      (isMark : later.reader.last? = some mark)
      (goesOn : Trace catalog later moves) :
      Trace catalog state (.reads concept keyword mark :: moves)
  | closes
      {state later : State} {events : List Event} {brace : Token} {moves : List Move}
      (step : Step catalog state events [] later)
      (isBrace : later.reader.last? = some brace)
      (goesOn : Trace catalog later moves) :
      Trace catalog state (.closes brace :: moves)
  | breaksOff
      {state : State} {parse : Parse} {keyword : Token}
      (halts : Halts catalog state parse)
      (isKeyword : state.reader.peek? = some keyword)
      (isText : keyword.isText = true) :
      Trace catalog state [.breaksOff keyword]
  | stops
      {state : State} {parse : Parse}
      (halts : Halts catalog state parse)
      (noKeyword : ∀ token ∈ state.reader.peek?, token.isText = false) :
      Trace catalog state []

namespace Trace

variable {catalog : Catalog} {state : State} {moves : List Move}

theorem exists_of_halts
    {parse : Parse}
    (halts : Halts catalog state parse) :
    ∃ moves, Trace catalog state moves := by
  cases isNext : state.reader.peek? with
  | none => exact ⟨[], .stops halts (by simp [isNext])⟩
  | some token =>
    by_cases isText : token.isText = true
    · exact ⟨_, .breaksOff halts isNext isText⟩
    · exact ⟨[], .stops halts (by simp [isNext, isText])⟩

theorem exists_of_step
    {later : State} {events : List Event} {concepts : List Concept}
    (step : Step catalog state events concepts later)
    (goesOn : Trace catalog later moves) :
    ∃ move, Trace catalog state (move :: moves) := by
  cases step with
  | closes isBrace => exact ⟨_, .closes (.closes isBrace) rfl goesOn⟩
  | ends isRest isRead isMark =>
    exact ⟨_, .reads (.ends isRest isRead isMark) (Reader.peek?_of_rest isRest) rfl goesOn⟩
  | opens isRest isRead isMark =>
    exact ⟨_, .reads (.opens isRest isRead isMark) (Reader.peek?_of_rest isRest) rfl goesOn⟩

end Trace

theorem exists_trace (catalog : Catalog) (state : State) : ∃ moves, Trace catalog state moves := by
  obtain ⟨events, concepts, halted, parse, steps, halts⟩ := exists_steps_halts catalog state
  induction steps with
  | refl => exact Trace.exists_of_halts halts
  | head step _ inductionHypothesis =>
    obtain ⟨moves, goesOn⟩ := inductionHypothesis halts
    obtain ⟨move, trace⟩ := Trace.exists_of_step step goesOn
    exact ⟨move :: moves, trace⟩

namespace Trace

variable {catalog : Catalog} {state : State} {moves others : List Move}

theorem unique
    (trace : Trace catalog state moves)
    (other : Trace catalog state others) :
    moves = others := by
  induction trace generalizing others with
  | reads step isKeyword isMark _ inductionHypothesis =>
    cases other with
    | reads otherStep otherKeyword otherMark goesOn =>
      obtain ⟨sameConcept, rfl⟩ := step.unique otherStep
      cases sameConcept
      cases isKeyword.symm.trans otherKeyword
      cases isMark.symm.trans otherMark
      rw [inductionHypothesis goesOn]
    | closes otherStep => cases (step.unique otherStep).1
    | breaksOff halts => exact absurd step halts.not_step
    | stops halts => exact absurd step halts.not_step
  | closes step isBrace _ inductionHypothesis =>
    cases other with
    | reads otherStep => cases (step.unique otherStep).1
    | closes otherStep otherBrace goesOn =>
      obtain ⟨-, rfl⟩ := step.unique otherStep
      cases isBrace.symm.trans otherBrace
      rw [inductionHypothesis goesOn]
    | breaksOff halts => exact absurd step halts.not_step
    | stops halts => exact absurd step halts.not_step
  | breaksOff halts isKeyword isText =>
    cases other with
    | reads step => exact absurd step halts.not_step
    | closes step => exact absurd step halts.not_step
    | breaksOff _ otherKeyword =>
      cases isKeyword.symm.trans otherKeyword
      rfl
    | stops _ noKeyword =>
      rw [noKeyword _ isKeyword] at isText
      cases isText
  | stops halts noKeyword =>
    cases other with
    | reads step => exact absurd step halts.not_step
    | closes step => exact absurd step halts.not_step
    | breaksOff _ isKeyword isText =>
      rw [noKeyword _ isKeyword] at isText
      cases isText
    | stops => rfl

end Trace

theorem exists_unique_trace (catalog : Catalog) (state : State) :
    ∃ moves, ∀ others, Trace catalog state others ↔ others = moves := by
  obtain ⟨moves, trace⟩ := exists_trace catalog state
  exact ⟨moves, fun others => ⟨fun other => other.unique trace, fun same => same ▸ trace⟩⟩

/-! ## Tokens of a trace -/

def Move.tokens : Move → List Token
  | .reads _ keyword mark => [keyword, mark]
  | .closes brace => [brace]
  | .breaksOff keyword => [keyword]

theorem Step.last_mem_rest
    {catalog : Catalog} {state later : State} {events : List Event} {concepts : List Concept}
    {last : Token}
    (step : Step catalog state events concepts later)
    (isLast : later.reader.last? = some last) :
    last ∈ state.reader.rest := by
  cases step with
  | closes isBrace =>
    obtain rfl := Option.some.inj isLast
    exact List.mem_cons_self
  | ends isRest isRead =>
    obtain rfl := Option.some.inj isLast
    exact mark_mem_rest isRest isRead
  | opens isRest isRead =>
    obtain rfl := Option.some.inj isLast
    exact mark_mem_rest isRest isRead

/-- A step consumes at least one token. -/
theorem Step.exists_last
    {catalog : Catalog} {state later : State} {events : List Event} {concepts : List Concept}
    (step : Step catalog state events concepts later) :
    ∃ last, later.reader.last? = some last := by
  cases step with
  | closes => exact ⟨_, rfl⟩
  | ends => exact ⟨_, rfl⟩
  | opens => exact ⟨_, rfl⟩

theorem Step.rest_subset
    {catalog : Catalog} {state later : State} {events : List Event} {concepts : List Concept}
    (step : Step catalog state events concepts later) :
    later.reader.rest ⊆ state.reader.rest := by
  obtain ⟨taken, isRest, -⟩ := step.reaches
  rw [isRest]
  exact List.subset_append_right taken _

/-- A trace is about tokens that are still to come. -/
theorem Trace.mem_rest
    {catalog : Catalog} {state : State} {moves : List Move}
    (trace : Trace catalog state moves) :
    ∀ move ∈ moves, ∀ token ∈ move.tokens, token ∈ state.reader.rest := by
  induction trace with
  | reads step isKeyword isMark _ inductionHypothesis =>
    intro move isMove token isToken
    rcases List.mem_cons.1 isMove with rfl | isLater
    · simp only [Move.tokens, List.mem_cons, List.not_mem_nil, or_false] at isToken
      rcases isToken with rfl | rfl
      · exact List.mem_of_mem_head? isKeyword
      · exact step.last_mem_rest isMark
    · exact step.rest_subset (inductionHypothesis move isLater token isToken)
  | closes step isBrace _ inductionHypothesis =>
    intro move isMove token isToken
    rcases List.mem_cons.1 isMove with rfl | isLater
    · obtain rfl := List.mem_singleton.1 isToken
      exact step.last_mem_rest isBrace
    · exact step.rest_subset (inductionHypothesis move isLater token isToken)
  | breaksOff halts isKeyword =>
    intro move isMove token isToken
    obtain rfl := List.mem_singleton.1 isMove
    obtain rfl := List.mem_singleton.1 isToken
    exact List.mem_of_mem_head? isKeyword
  | stops => simp

end Parse

end ConceptScript
