import ConceptScript.Proofs.Script.CutShort

/-!
Contract: one more word where the parse of some tokens has come to a boundary between concepts.

At a boundary all tokens belong to whole concepts and braces, and nothing but blocks can be open. A
word behind them is looked at with the innermost open concept as its parent. It is refused as a
keyword exactly where no type with this keyword may stand there. Whatever else is missing is then a
fault of another kind.

Owns boundaries, the faults of a keyword, and which faults the choice between types can report.

Does not own what is offered to be typed.
-/

set_option autoImplicit false

namespace ConceptScript

/-- The word is no keyword, or none of a type that may stand there. -/
def Fault.Cause.refusesKeyword : Fault.Cause → Bool
  | .unknownKeyword _ => true
  | .notAllowedInside _ _ => true
  | _ => false

/-- Nothing is missing but a brace at the end. -/
def Fault.Cause.isUnclosed : Fault.Cause → Bool
  | .unclosedConcept _ => true
  | _ => false

namespace Parse

def refusesKeyword (parse : Parse) : Bool :=
  match parse.outcome with
  | .ok _ => false
  | .error fault => fault.cause.refusesKeyword

/-- The tokens are read up to the end of a concept or block: they can be read, or only braces are
missing behind them. -/
def atBoundary (parse : Parse) : Bool :=
  match parse.outcome with
  | .ok _ => true
  | .error fault => fault.cause.isUnclosed

@[simp]
theorem refusesKeyword_after (parse : Parse) (events : List Event) (concepts : List Concept) :
    (parse.after events concepts).refusesKeyword = parse.refusesKeyword := by
  obtain ⟨_, outcome⟩ := parse
  cases outcome <;> rfl

@[simp]
theorem atBoundary_after (parse : Parse) (events : List Event) (concepts : List Concept) :
    (parse.after events concepts).atBoundary = parse.atBoundary := by
  obtain ⟨_, outcome⟩ := parse
  cases outcome <;> rfl

/-! ## Faults of the choice between types -/

/-- Of a type that is tried, only a member can be at fault. -/
theorem cause_of_readMembers
    {type : ConceptType} {values : List String} {members : List Member} {reader : Reader}
    {fault : Fault}
    (isFault : (readMembers type values members reader).2 = .error fault) :
    ∃ label concept reason, fault.cause = .memberUnreadable label concept reason := by
  induction members generalizing values reader with
  | nil => cases isFault
  | cons member members inductionHypothesis =>
    rw [readMembers] at isFault
    split at isFault
    · exact inductionHypothesis isFault
    · obtain rfl := Except.error.inj isFault
      exact ⟨_, _, _, rfl⟩

theorem mem_of_furthest
    {faults : List Fault} {fault : Fault}
    (isFurthest : furthest faults = some fault) :
    fault ∈ faults := by
  induction faults generalizing fault with
  | nil => cases isFurthest
  | cons first later inductionHypothesis =>
    rw [furthest] at isFurthest
    split at isFurthest
    · obtain rfl := Option.some.inj isFurthest
      exact List.mem_cons_self
    · next other isOther =>
      split at isFurthest
      · obtain rfl := Option.some.inj isFurthest
        exact List.mem_cons_of_mem first (inductionHypothesis isOther)
      · obtain rfl := Option.some.inj isFurthest
        exact List.mem_cons_self

theorem cause_of_attempts
    {catalog : Catalog} {stack : List Concept} {reader : Reader} {keyword : Token} {fault : Fault}
    (isReported : fault ∈ faults (attemptsAt catalog stack reader keyword)) :
    ∃ label concept reason, fault.cause = .memberUnreadable label concept reason := by
  obtain ⟨attempted, isAttempted, isFault⟩ := List.mem_filterMap.1 isReported
  obtain ⟨type, -, rfl⟩ := List.mem_map.1 isAttempted
  cases isRead : (attempt reader type).2 with
  | ok reading =>
    rw [isRead] at isFault
    cases isFault
  | error other =>
    rw [isRead] at isFault
    obtain rfl := Option.some.inj isFault
    exact cause_of_readMembers isRead

/-- An attempt ends in a reading or in a fault. -/
theorem attempts_eq_nil
    {attempts : List Attempt}
    (noReading : readings attempts = [])
    (noFault : furthest (faults attempts) = none) :
    attempts = [] := by
  cases attempts with
  | nil => rfl
  | cons attempt attempts =>
    cases isRead : attempt.2 with
    | ok reading => simp [readings, isRead, Except.toOption] at noReading
    | error fault =>
      have isReported : fault ∈ faults (attempt :: attempts) := by simp [faults, isRead]
      obtain ⟨found, isFurthest, -⟩ := le_furthest isReported
      rw [noFault] at isFurthest
      cases isFurthest

/-- The faults that the choice can report. -/
theorem choose_fault_cases
    {catalog : Catalog} {stack : List Concept} {keyword : Token} {attempts : List Attempt}
    {fault : Fault}
    (isFault : choose catalog stack keyword attempts = .error fault) :
    (catalog.typesFor keyword.value = [] ∧
        fault = ⟨.unknownKeyword keyword.value, keyword.start⟩) ∨
      fault ∈ faults attempts ∨
      (attempts = [] ∧
        ∃ parent, fault = ⟨.notAllowedInside keyword.value parent, keyword.start⟩) ∨
      ∃ names, fault = ⟨.ambiguous keyword.value names, keyword.start⟩ := by
  unfold choose at isFault
  split at isFault
  · cases isFault
  · next isEmpty =>
    have noReading : readings attempts = [] := by
      by_contra isReading
      exact longest_ne_nil isReading isEmpty
    split at isFault
    · next unknown =>
      obtain rfl := Except.error.inj isFault
      exact .inl ⟨List.isEmpty_iff.1 unknown, rfl⟩
    · split at isFault
      · next found isFurthest =>
        obtain rfl := Except.error.inj isFault
        exact .inr (.inl (mem_of_furthest isFurthest))
      · next noFault =>
        obtain rfl := Except.error.inj isFault
        exact .inr (.inr (.inl ⟨attempts_eq_nil noReading noFault, _, rfl⟩))
  · obtain rfl := Except.error.inj isFault
    exact .inr (.inr (.inr ⟨_, rfl⟩))

/-- A concept is never refused for a brace that is missing at the end. -/
theorem not_unclosed_of_readConcept
    {catalog : Catalog} {stack : List Concept} {reader : Reader} {keyword : Token} {fault : Fault}
    (isFault : (readConcept catalog stack reader keyword).2 = .error fault) :
    fault.cause.isUnclosed = false := by
  by_cases isText : keyword.isText = true
  · rw [readConcept_of_isText isText] at isFault
    rcases choose_fault_cases isFault with
      ⟨-, rfl⟩ | isReported | ⟨-, parent, rfl⟩ | ⟨names, rfl⟩
    · rfl
    · obtain ⟨label, concept, reason, isCause⟩ := cause_of_attempts isReported
      rw [isCause]
      rfl
    · rfl
    · rfl
  · have isExpected : (readConcept catalog stack reader keyword).2 =
        .error ⟨.keywordExpected keyword.value, keyword.start⟩ := by
      simp [readConcept, isText]
    obtain rfl := Except.error.inj (isFault.symm.trans isExpected)
    rfl

/-- A keyword is refused exactly where no type that it introduces may stand. -/
theorem readConcept_refuses_iff
    (catalog : Catalog) (stack : List Concept) (reader : Reader) {keyword : Token}
    (isText : keyword.isText = true) :
    (∃ fault, (readConcept catalog stack reader keyword).2 = .error fault ∧
        fault.cause.refusesKeyword = true) ↔
      ∀ type ∈ catalog.typesFor keyword.value, applicable stack type = false := by
  have noType : attemptsAt catalog stack reader keyword = [] ↔
      ∀ type ∈ catalog.typesFor keyword.value, applicable stack type = false := by
    simp [attemptsAt]
  rw [readConcept_of_isText isText, ← noType]
  constructor
  · rintro ⟨fault, isFault, refuses⟩
    rcases choose_fault_cases isFault with
      ⟨unknown, -⟩ | isReported | ⟨isEmpty, -⟩ | ⟨names, rfl⟩
    · simp [attemptsAt, unknown]
    · obtain ⟨label, concept, reason, isCause⟩ := cause_of_attempts isReported
      rw [isCause] at refuses
      cases refuses
    · exact isEmpty
    · cases refuses
  · intro isEmpty
    rw [isEmpty]
    by_cases unknown : (catalog.typesFor keyword.value).isEmpty = true
    · exact ⟨_, by simp [choose, readings, longest, unknown]; rfl, rfl⟩
    · exact ⟨_, by simp [choose, readings, longest, faults, furthest, unknown]; rfl, rfl⟩

/-! ## Boundaries -/

/-- At a boundary all tokens are consumed by steps. -/
theorem exists_steps_of_atBoundary
    {catalog : Catalog} {tokens : List Token} {stop : Nat}
    (isBoundary : (catalog.parse tokens stop).atBoundary = true) :
    ∃ events concepts stack, Steps catalog (.initial tokens stop) events concepts
      ⟨stack, ⟨tokens.reverse, [], stop⟩⟩ := by
  obtain ⟨events, concepts, halted, parse, steps, halts⟩ :=
    exists_steps_halts catalog (.initial tokens stop)
  have sameTokens : halted.reader.tokens = tokens := steps.reaches.tokens_eq
  have sameStop : halted.reader.stop = stop := by
    obtain ⟨_, -, -, isStop⟩ := steps.reaches
    exact isStop
  have haltedBoundary : parse.atBoundary = true := by
    rwa [← parse_initial, parse_eq_after steps halts, atBoundary_after] at isBoundary
  obtain ⟨stack, consumed, rest, haltedStop⟩ := halted
  obtain rfl : haltedStop = stop := sameStop
  have atEnd : rest = [] := by
    cases halts with
    | finished => rfl
    | unclosed => rfl
    | unopened => cases haltedBoundary
    | @unread _ _ _ _ fault _ _ isFault =>
      have isUnclosed : fault.cause.isUnclosed = true := haltedBoundary
      rw [not_unclosed_of_readConcept isFault] at isUnclosed
      cases isUnclosed
    | unended => cases haltedBoundary
  subst atEnd
  have isConsumed : consumed = tokens.reverse := by
    rw [← sameTokens]
    simp [Reader.tokens]
  rw [isConsumed] at steps
  exact ⟨events, concepts, stack, steps⟩

theorem refusesKeyword_halts_iff
    {catalog : Catalog} {stack : List Concept} {reader : Reader} {word : Token}
    {tail : List Token} {parse : Parse}
    (isRest : reader.rest = word :: tail)
    (isText : word.isText = true)
    (halts : Halts catalog ⟨stack, reader⟩ parse) :
    parse.refusesKeyword = true ↔
      ∃ fault, (readConcept catalog stack reader word).2 = .error fault ∧
        fault.cause.refusesKeyword = true := by
  cases halts with
  | finished => cases isRest
  | unclosed => cases isRest
  | unopened isBrace =>
    obtain ⟨rfl, -⟩ := List.cons.inj isRest
    rw [isSpecial_eq_false_of_isText isText] at isBrace
    cases isBrace
  | unread isOther _ isFault =>
    obtain ⟨rfl, -⟩ := List.cons.inj (isOther.symm.trans isRest)
    rw [isFault]
    simp [refusesKeyword]
  | unended isOther isRead =>
    obtain ⟨rfl, -⟩ := List.cons.inj (isOther.symm.trans isRest)
    rw [isRead]
    simp [refusesKeyword, Fault.Cause.refusesKeyword]

/-- A word behind a boundary. -/
theorem refusesKeyword_append_iff
    {catalog : Catalog} {tokens : List Token} {stop : Nat} {events : List Event}
    {concepts stack : List Concept} {word : Token}
    (steps : Steps catalog (.initial tokens stop) events concepts
      ⟨stack, ⟨tokens.reverse, [], stop⟩⟩)
    (isText : word.isText = true) (wordStop : Nat) :
    (catalog.parse (tokens ++ [word]) wordStop).refusesKeyword = true ↔
      ∀ type ∈ catalog.typesFor word.value, applicable stack type = false := by
  let reader : Reader := ⟨tokens.reverse, [word], wordStop⟩
  have isParse : catalog.parse (tokens ++ [word]) wordStop =
      (State.parse catalog ⟨stack, reader⟩).after (events.map (Event.extend [word] wordStop))
        concepts := by
    rw [← parse_initial]
    exact parse_of_steps (steps.extend [word] wordStop)
  have noBarrier : ∀ token ∈ reader.rest, token.isBarrier = false := by
    intro token member
    obtain rfl := List.mem_singleton.1 member
    simp [Token.isBarrier, isText]
  -- Nothing follows the word, so no step is left.
  obtain ⟨parse, halts⟩ := exists_halts_of_begun catalog stack noBarrier
  rw [isParse, refusesKeyword_after, parse_of_halts halts,
    refusesKeyword_halts_iff rfl isText halts, readConcept_refuses_iff catalog stack reader isText]

end Parse

end ConceptScript
