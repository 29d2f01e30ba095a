import ConceptScript.Script.Parse

/-!
Contract: a parse as the run of a machine.

A state is the open concepts and a place in the tokens. A step closes a block, or reads a concept
together with the mark behind it. A state without step has halted, and what is then reported depends
on nothing but the state.

Owns the steps, the halts, and that `Catalog.parse` is exactly the steps from the first token up to
a halt.

Does not own how a concept is chosen.
-/

set_option autoImplicit false

namespace ConceptScript

/-- A parse that goes on where the given events were reported and the given concepts read. -/
def Parse.after (events : List Event) (concepts : List Concept) (later : Parse) : Parse :=
  ⟨events ++ later.events, later.outcome.map (concepts ++ ·)⟩

namespace Parse

@[simp]
theorem after_nil (parse : Parse) : parse.after [] [] = parse := by
  obtain ⟨events, outcome⟩ := parse
  cases outcome <;> simp [after, Except.map]

@[simp]
theorem after_after
    (parse : Parse) (events laterEvents : List Event) (concepts laterConcepts : List Concept) :
    (parse.after laterEvents laterConcepts).after events concepts =
      parse.after (events ++ laterEvents) (concepts ++ laterConcepts) := by
  obtain ⟨finalEvents, outcome⟩ := parse
  cases outcome <;> simp [after, Except.map]

theorem outcome_after_eq_error_iff
    (parse : Parse) (events : List Event) (concepts : List Concept) (fault : Fault) :
    (parse.after events concepts).outcome = .error fault ↔ parse.outcome = .error fault := by
  obtain ⟨laterEvents, outcome⟩ := parse
  cases outcome <;> simp [after, Except.map]

structure State where
  stack : List Concept
  reader : Reader

/-- What is parsed from a state on. Where tokens have been consumed, blocks are closed first. -/
def State.parse (catalog : Catalog) (state : State) : Parse :=
  match state.reader.consumed with
  | [] => ofReader catalog state.stack state.reader
  | _ :: _ =>
    let nesting :=
      closeBlocks state.reader.stop state.reader.consumed state.stack state.reader.rest
    match nesting.2 with
    | .error fault => ⟨nesting.1, .error fault⟩
    | .ok (stack, next) => (ofReader catalog stack next).after nesting.1 []

def State.initial (tokens : List Token) (stop : Nat) : State :=
  ⟨[], .ofTokens tokens stop⟩

theorem parse_initial (catalog : Catalog) (tokens : List Token) (stop : Nat) :
    (State.initial tokens stop).parse catalog = catalog.parse tokens stop :=
  rfl

/-! ## Events of one concept -/

end Parse

def Event.IsMember : Event → Prop
  | .member _ _ _ _ => True
  | .keyword _ _ | .opened _ _ | .closed _ _ => False

theorem Event.IsMember.exists_eq
    {event : Event}
    (isMember : event.IsMember) :
    ∃ reader concept declared value, event = .member reader concept declared value := by
  cases event with
  | member reader concept declared value => exact ⟨reader, concept, declared, value, rfl⟩
  | keyword reader word => cases isMember
  | opened reader stack => cases isMember
  | closed reader stack => cases isMember

namespace Parse

theorem isMember_readMembers
    {type : ConceptType} {values : List String} {members : List Member} {reader : Reader}
    {event : Event}
    (reported : event ∈ (readMembers type values members reader).1) :
    event.IsMember := by
  induction members generalizing values reader with
  | nil => cases reported
  | cons member members inductionHypothesis =>
    rw [readMembers] at reported
    split at reported
    · rcases List.mem_cons.1 reported with rfl | later
      · trivial
      · exact inductionHypothesis later
    · obtain rfl := List.mem_singleton.1 reported
      trivial

/-- The word that the concept at a token is reported with. -/
def word (keyword : Token) : Option String :=
  if keyword.isText then some keyword.value else none

/-- First the keyword of a concept is reported, then its members as far as they are read. -/
theorem exists_readConcept_events
    (catalog : Catalog) (stack : List Concept) (reader : Reader) (keyword : Token) :
    ∃ members, (readConcept catalog stack reader keyword).1 =
        .keyword reader (word keyword) :: members ∧
      ∀ event ∈ members, event.IsMember := by
  by_cases isText : keyword.isText = true
  · let types := (catalog.typesFor keyword.value).filter (applicable stack)
    refine ⟨(types.map (attempt reader)).flatMap Prod.fst, ?_, ?_⟩
    · simp only [readConcept, word, isText, ↓reduceIte, types]
    · intro event reported
      obtain ⟨attempted, member, isReported⟩ := List.mem_flatMap.1 reported
      obtain ⟨type, _, rfl⟩ := List.mem_map.1 member
      exact isMember_readMembers isReported
  · exact ⟨[], by simp [readConcept, word, isText], by simp⟩

/-! ## Steps -/

/-- One step, with what it reports and the concepts it reads. -/
inductive Step (catalog : Catalog) : State → List Event → List Concept → State → Prop where
  /-- A brace closes the innermost block. -/
  | closes
      {innermost : Concept} {outer : List Concept} {last brace : Token}
      {consumed behind : List Token} {stop : Nat}
      (isBrace : brace.isSpecial "\x7d" = true) :
      Step catalog ⟨innermost :: outer, ⟨last :: consumed, brace :: behind, stop⟩⟩
        [.closed ⟨brace :: last :: consumed, behind, stop⟩ outer] []
        ⟨outer, ⟨brace :: last :: consumed, behind, stop⟩⟩
  /-- A concept that ends in a semicolon. -/
  | ends
      {stack : List Concept} {reader : Reader} {keyword mark : Token} {tail : List Token}
      {concept : Concept} {consumed behind : List Token} {stop : Nat}
      (isRest : reader.rest = keyword :: tail)
      (isRead : (readConcept catalog stack reader keyword).2 =
        .ok (concept, ⟨consumed, mark :: behind, stop⟩))
      (isMark : mark.isSpecial ";" = true) :
      Step catalog ⟨stack, reader⟩
        ((readConcept catalog stack reader keyword).1 ++
          [.keyword ⟨mark :: consumed, behind, stop⟩ none])
        [concept] ⟨stack, ⟨mark :: consumed, behind, stop⟩⟩
  /-- A concept that opens a block. -/
  | opens
      {stack : List Concept} {reader : Reader} {keyword mark : Token} {tail : List Token}
      {concept : Concept} {consumed behind : List Token} {stop : Nat}
      (isRest : reader.rest = keyword :: tail)
      (isRead : (readConcept catalog stack reader keyword).2 =
        .ok (concept, ⟨consumed, mark :: behind, stop⟩))
      (isMark : mark.isSpecial "\x7b" = true) :
      Step catalog ⟨stack, reader⟩
        ((readConcept catalog stack reader keyword).1 ++
          [.opened ⟨mark :: consumed, behind, stop⟩ (concept :: stack),
            .keyword ⟨mark :: consumed, behind, stop⟩ none])
        [concept] ⟨concept :: stack, ⟨mark :: consumed, behind, stop⟩⟩

/-- Any number of steps. -/
inductive Steps (catalog : Catalog) : State → List Event → List Concept → State → Prop where
  | refl (state : State) : Steps catalog state [] [] state
  | head
      {first second third : State} {events laterEvents : List Event}
      {concepts laterConcepts : List Concept}
      (step : Step catalog first events concepts second)
      (later : Steps catalog second laterEvents laterConcepts third) :
      Steps catalog first (events ++ laterEvents) (concepts ++ laterConcepts) third

namespace Steps

theorem trans
    {catalog : Catalog} {first second third : State} {events laterEvents : List Event}
    {concepts laterConcepts : List Concept}
    (earlier : Steps catalog first events concepts second)
    (later : Steps catalog second laterEvents laterConcepts third) :
    Steps catalog first (events ++ laterEvents) (concepts ++ laterConcepts) third := by
  induction earlier with
  | refl => exact later
  | head step _ inductionHypothesis =>
    rw [List.append_assoc, List.append_assoc]
    exact .head step (inductionHypothesis later)

end Steps

/-! ## Halts -/

/-- A state in which no step is possible, and what is parsed from it. -/
inductive Halts (catalog : Catalog) : State → Parse → Prop where
  | finished {consumed : List Token} {stop : Nat} :
      Halts catalog ⟨[], ⟨consumed, [], stop⟩⟩ ⟨[], .ok []⟩
  | unclosed {innermost : Concept} {outer : List Concept} {consumed : List Token} {stop : Nat} :
      Halts catalog ⟨innermost :: outer, ⟨consumed, [], stop⟩⟩
        ⟨[], .error ⟨.unclosedConcept innermost.display, stop⟩⟩
  | unopened {last brace : Token} {consumed behind : List Token} {stop : Nat}
      (isBrace : brace.isSpecial "\x7d" = true) :
      Halts catalog ⟨[], ⟨last :: consumed, brace :: behind, stop⟩⟩
        ⟨[], .error ⟨.nothingToClose, brace.start⟩⟩
  | unread {stack : List Concept} {reader : Reader} {keyword : Token} {tail : List Token}
      {fault : Fault}
      (isRest : reader.rest = keyword :: tail)
      (atConcept : reader.consumed = [] ∨ keyword.isSpecial "\x7d" = false)
      (isFault : (readConcept catalog stack reader keyword).2 = .error fault) :
      Halts catalog ⟨stack, reader⟩
        ⟨(readConcept catalog stack reader keyword).1, .error fault⟩
  | unended {stack : List Concept} {reader next : Reader} {keyword : Token} {tail : List Token}
      {concept : Concept}
      (isRest : reader.rest = keyword :: tail)
      (isRead : (readConcept catalog stack reader keyword).2 = .ok (concept, next))
      (noMark : ∀ mark ∈ next.peek?,
        mark.isSpecial "\x7b" = false ∧ mark.isSpecial ";" = false) :
      Halts catalog ⟨stack, reader⟩
        ⟨(readConcept catalog stack reader keyword).1,
          .error ⟨.terminatorExpected concept.display, next.faultOffset⟩⟩

/-! ## Steps and halts are what is parsed -/

/-- The mark behind a concept is one of the tokens that were to come. -/
theorem mark_mem_rest
    {catalog : Catalog} {stack : List Concept} {reader : Reader} {keyword mark : Token}
    {behindKeyword consumed behind : List Token} {stop : Nat} {concept : Concept}
    (isRest : reader.rest = keyword :: behindKeyword)
    (isRead : (readConcept catalog stack reader keyword).2 =
      .ok (concept, ⟨consumed, mark :: behind, stop⟩)) :
    mark ∈ reader.rest := by
  obtain ⟨taken, isTaken, _⟩ := (readConcept_shorter isRest isRead).1
  rw [isTaken]
  simp

theorem isText_of_readConcept
    {catalog : Catalog} {stack : List Concept} {reader : Reader} {keyword : Token}
    {reading : Concept × Reader}
    (isRead : (readConcept catalog stack reader keyword).2 = .ok reading) :
    keyword.isText = true := by
  unfold readConcept at isRead
  split at isRead
  · assumption
  · cases isRead

theorem word_of_readConcept
    {catalog : Catalog} {stack : List Concept} {reader : Reader} {keyword : Token}
    {reading : Concept × Reader}
    (isRead : (readConcept catalog stack reader keyword).2 = .ok reading) :
    word keyword = some keyword.value :=
  if_pos (isText_of_readConcept isRead)

theorem isSpecial_eq_false_of_isText
    {token : Token} {mark : String}
    (isText : token.isText = true) :
    token.isSpecial mark = false := by
  unfold Token.isText at isText
  unfold Token.isSpecial
  cases kind : token.kind <;> simp_all

theorem isSpecial_unique
    {token : Token} {mark other : String}
    (isMark : token.isSpecial mark = true)
    (different : mark ≠ other) :
    token.isSpecial other = false := by
  simp only [Token.isSpecial, Bool.and_eq_true, decide_eq_true_eq] at isMark
  simp [Token.isSpecial, isMark, different]

/-- Blocks are closed only at a brace. -/
theorem closeBlocks_of_not_brace
    {stop : Nat} {consumed rest : List Token} {stack : List Concept}
    (noBrace : ∀ token ∈ rest.head?, token.isSpecial "\x7d" = false) :
    closeBlocks stop consumed stack rest = ([], .ok (stack, ⟨consumed, rest, stop⟩)) := by
  cases rest with
  | nil => rfl
  | cons token behind => simp [closeBlocks, noBrace token rfl]

theorem State.parse_of_not_brace
    {catalog : Catalog} {state : State}
    (noBrace : ∀ token ∈ state.reader.peek?, token.isSpecial "\x7d" = false) :
    state.parse catalog = ofReader catalog state.stack state.reader := by
  unfold State.parse
  split
  · rfl
  · rw [closeBlocks_of_not_brace noBrace]
    exact after_nil _

theorem ofReader_of_read
    {catalog : Catalog} {stack : List Concept} {reader next : Reader} {keyword : Token}
    {tail : List Token} {concept : Concept}
    (isRest : reader.rest = keyword :: tail)
    (isRead : (readConcept catalog stack reader keyword).2 = .ok (concept, next)) :
    ofReader catalog stack reader =
      match (endConcept stack concept next).2 with
      | .error fault =>
        ⟨(readConcept catalog stack reader keyword).1 ++ (endConcept stack concept next).1,
          .error fault⟩
      | .ok (opened, behind) =>
        (ofReader catalog opened behind).after
          ((readConcept catalog stack reader keyword).1 ++ (endConcept stack concept next).1)
          [concept] := by
  rw [ofReader.eq_def]
  split
  · next noRest => simp [noRest] at isRest
  · next other behind isOther =>
    obtain ⟨rfl, rfl⟩ := List.cons.inj (isOther.symm.trans isRest)
    dsimp only
    split
    · next fault isFault => simp [isFault] at isRead
    · next found later isFound =>
      obtain ⟨rfl, rfl⟩ := Prod.mk.inj (Except.ok.inj (isFound.symm.trans isRead))
      split
      · next fault isFault => rw [isFault]
      · next opened later isEnded =>
        rw [isEnded]
        rfl

theorem endConcept_semicolon
    {stack : List Concept} {concept : Concept} {mark : Token} {consumed behind : List Token}
    {stop : Nat}
    (isMark : mark.isSpecial ";" = true) :
    endConcept stack concept ⟨consumed, mark :: behind, stop⟩ =
      ([.keyword ⟨mark :: consumed, behind, stop⟩ none] ++
          (closeBlocks stop (mark :: consumed) stack behind).1,
        (closeBlocks stop (mark :: consumed) stack behind).2) := by
  have noBrace : mark.isSpecial "\x7b" = false := isSpecial_unique isMark (by decide)
  simp [endConcept, Reader.trySpecial, Reader.peek?, Reader.advance, isMark, noBrace]

theorem endConcept_brace
    {stack : List Concept} {concept : Concept} {mark : Token} {consumed behind : List Token}
    {stop : Nat}
    (isMark : mark.isSpecial "\x7b" = true) :
    endConcept stack concept ⟨consumed, mark :: behind, stop⟩ =
      ([.opened ⟨mark :: consumed, behind, stop⟩ (concept :: stack),
            .keyword ⟨mark :: consumed, behind, stop⟩ none] ++
          (closeBlocks stop (mark :: consumed) (concept :: stack) behind).1,
        (closeBlocks stop (mark :: consumed) (concept :: stack) behind).2) := by
  simp [endConcept, Reader.trySpecial, Reader.peek?, Reader.advance, isMark]

theorem endConcept_of_not_mark
    {stack : List Concept} {concept : Concept} {reader : Reader}
    (noMark : ∀ mark ∈ reader.peek?,
      mark.isSpecial "\x7b" = false ∧ mark.isSpecial ";" = false) :
    endConcept stack concept reader =
      ([], .error ⟨.terminatorExpected concept.display, reader.faultOffset⟩) := by
  obtain ⟨consumed, rest, stop⟩ := reader
  cases rest with
  | nil => simp [endConcept, Reader.trySpecial, Reader.peek?]
  | cons mark behind =>
    obtain ⟨noBrace, noSemicolon⟩ := noMark mark rfl
    simp [endConcept, Reader.trySpecial, Reader.peek?, noBrace, noSemicolon]

theorem not_brace_of_readConcept
    {catalog : Catalog} {stack : List Concept} {reader : Reader} {keyword : Token}
    {tail : List Token} {reading : Concept × Reader}
    (isRest : reader.rest = keyword :: tail)
    (isRead : (readConcept catalog stack reader keyword).2 = .ok reading) :
    ∀ token ∈ reader.peek?, token.isSpecial "\x7d" = false := by
  intro token isNext
  rw [Reader.peek?, isRest, List.head?_cons, Option.mem_some_iff] at isNext
  rw [← isNext]
  exact isSpecial_eq_false_of_isText (isText_of_readConcept isRead)

/-- Behind its mark a concept leaves a state from which the parse goes on. -/
theorem ofReader_of_ended
    {catalog : Catalog} {stack opened : List Concept} {reader next : Reader}
    {keyword mark : Token} {tail consumed behind : List Token} {stop : Nat} {concept : Concept}
    {reported : List Event}
    (isRest : reader.rest = keyword :: tail)
    (isRead : (readConcept catalog stack reader keyword).2 = .ok (concept, next))
    (isEnded : endConcept stack concept next =
      (reported ++ (closeBlocks stop (mark :: consumed) opened behind).1,
        (closeBlocks stop (mark :: consumed) opened behind).2)) :
    ofReader catalog stack reader =
      (State.parse catalog ⟨opened, ⟨mark :: consumed, behind, stop⟩⟩).after
        ((readConcept catalog stack reader keyword).1 ++ reported) [concept] := by
  rw [ofReader_of_read isRest isRead, isEnded]
  simp only [State.parse]
  cases closed : (closeBlocks stop (mark :: consumed) opened behind).2 with
  | error fault => simp [after, Except.map]
  | ok found => simp

theorem parse_of_step
    {catalog : Catalog} {state later : State} {events : List Event} {concepts : List Concept}
    (step : Step catalog state events concepts later) :
    state.parse catalog = (later.parse catalog).after events concepts := by
  cases step with
  | @closes innermost outer last brace consumed behind stop isBrace =>
    simp only [State.parse, closeBlocks, isBrace, ↓reduceIte]
    cases closed : (closeBlocks stop (brace :: last :: consumed) outer behind).2 with
    | error fault => simp [after, Except.map]
    | ok found => simp
  | @ends stack reader keyword mark tail concept consumed behind stop isRest isRead isMark =>
    rw [State.parse_of_not_brace (not_brace_of_readConcept isRest isRead)]
    exact ofReader_of_ended isRest isRead (endConcept_semicolon isMark)
  | @opens stack reader keyword mark tail concept consumed behind stop isRest isRead isMark =>
    rw [State.parse_of_not_brace (not_brace_of_readConcept isRest isRead)]
    exact ofReader_of_ended isRest isRead (endConcept_brace isMark)

theorem parse_of_steps
    {catalog : Catalog} {state later : State} {events : List Event} {concepts : List Concept}
    (steps : Steps catalog state events concepts later) :
    state.parse catalog = (later.parse catalog).after events concepts := by
  induction steps with
  | refl => rw [after_nil]
  | head step _ inductionHypothesis =>
    rw [parse_of_step step, inductionHypothesis, after_after]

theorem parse_of_halts
    {catalog : Catalog} {state : State} {parse : Parse}
    (halts : Halts catalog state parse) :
    state.parse catalog = parse := by
  cases halts with
  | finished =>
    rw [State.parse_of_not_brace (by simp [Reader.peek?]), ofReader.eq_def]
  | unclosed =>
    rw [State.parse_of_not_brace (by simp [Reader.peek?]), ofReader.eq_def]
  | unopened isBrace => simp [State.parse, closeBlocks, isBrace]
  | @unread stack reader keyword tail fault isRest atConcept isFault =>
    have isReader : State.parse catalog ⟨stack, reader⟩ = ofReader catalog stack reader := by
      rcases atConcept with nothing | noBrace
      · simp [State.parse, nothing]
      · apply State.parse_of_not_brace
        intro token isNext
        rw [Reader.peek?, isRest, List.head?_cons, Option.mem_some_iff] at isNext
        rw [← isNext]
        exact noBrace
    rw [isReader, ofReader.eq_def]
    split
    · next noRest => simp [noRest] at isRest
    · next other behind isOther =>
      obtain ⟨rfl, rfl⟩ := List.cons.inj (isOther.symm.trans isRest)
      dsimp only
      split
      · next other isOtherFault =>
        rw [Except.error.inj (isOtherFault.symm.trans isFault)]
      · next found later isFound => simp [isFound] at isFault
  | unended isRest isRead noMark =>
    rw [State.parse_of_not_brace (not_brace_of_readConcept isRest isRead),
      ofReader_of_read isRest isRead, endConcept_of_not_mark noMark]
    simp

theorem Step.shorter
    {catalog : Catalog} {state later : State} {events : List Event} {concepts : List Concept}
    (step : Step catalog state events concepts later) :
    later.reader.rest.length < state.reader.rest.length := by
  cases step with
  | closes => exact Nat.lt_succ_self _
  | ends isRest isRead isMark =>
    exact Nat.lt_of_succ_lt (readConcept_shorter isRest isRead).2
  | opens isRest isRead isMark =>
    exact Nat.lt_of_succ_lt (readConcept_shorter isRest isRead).2

/-- At a token that is taken for a keyword. -/
theorem halts_or_step_of_concept
    (catalog : Catalog) (stack : List Concept) {reader : Reader} {keyword : Token}
    {tail : List Token}
    (isRest : reader.rest = keyword :: tail)
    (atConcept : reader.consumed = [] ∨ keyword.isSpecial "\x7d" = false) :
    (∃ parse, Halts catalog ⟨stack, reader⟩ parse) ∨
      ∃ events concepts later, Step catalog ⟨stack, reader⟩ events concepts later := by
  cases isRead : (readConcept catalog stack reader keyword).2 with
  | error fault => exact .inl ⟨_, .unread isRest atConcept isRead⟩
  | ok reading =>
    obtain ⟨concept, consumed, rest, stop⟩ := reading
    cases rest with
    | nil => exact .inl ⟨_, .unended isRest isRead (by simp [Reader.peek?])⟩
    | cons mark behind =>
      by_cases isSemicolon : mark.isSpecial ";" = true
      · exact .inr ⟨_, _, _, .ends isRest isRead isSemicolon⟩
      · by_cases isBrace : mark.isSpecial "\x7b" = true
        · exact .inr ⟨_, _, _, .opens isRest isRead isBrace⟩
        · refine .inl ⟨_, .unended isRest isRead ?_⟩
          intro other isNext
          obtain rfl : mark = other := by simpa [Reader.peek?] using isNext
          simp [isSemicolon, isBrace]

/-- There is no state in which the machine is stuck. -/
theorem halts_or_step (catalog : Catalog) (state : State) :
    (∃ parse, Halts catalog state parse) ∨
      ∃ events concepts later, Step catalog state events concepts later := by
  obtain ⟨stack, consumed, rest, stop⟩ := state
  cases rest with
  | nil =>
    cases stack with
    | nil => exact .inl ⟨_, .finished⟩
    | cons innermost outer => exact .inl ⟨_, .unclosed⟩
  | cons token behind =>
    cases consumed with
    | nil => exact halts_or_step_of_concept catalog stack rfl (.inl rfl)
    | cons last consumed =>
      by_cases isBrace : token.isSpecial "\x7d" = true
      · cases stack with
        | nil => exact .inl ⟨_, .unopened isBrace⟩
        | cons innermost outer => exact .inr ⟨_, _, _, .closes isBrace⟩
      · have notBrace : token.isSpecial "\x7d" = false := by simpa using isBrace
        exact halts_or_step_of_concept catalog stack rfl (.inr notBrace)

/-- Every state is stepped from up to a halt. A step consumes a token, so there is an end to it. -/
theorem exists_steps_halts (catalog : Catalog) (state : State) :
    ∃ events concepts halted parse,
      Steps catalog state events concepts halted ∧ Halts catalog halted parse := by
  induction size : state.reader.rest.length using Nat.strongRecOn generalizing state with
  | ind size inductionHypothesis =>
    subst size
    rcases halts_or_step catalog state with ⟨parse, halts⟩ | ⟨events, concepts, later, step⟩
    · exact ⟨_, _, _, parse, .refl state, halts⟩
    · obtain ⟨laterEvents, laterConcepts, halted, parse, steps, halts⟩ :=
        inductionHypothesis _ step.shorter later rfl
      exact ⟨_, _, halted, parse, .head step steps, halts⟩

/-- A parse is its steps and the halt behind them. -/
theorem parse_eq_after
    {catalog : Catalog} {state halted : State} {events : List Event} {concepts : List Concept}
    {parse : Parse}
    (steps : Steps catalog state events concepts halted)
    (halts : Halts catalog halted parse) :
    state.parse catalog = parse.after events concepts := by
  rw [parse_of_steps steps, parse_of_halts halts]

end Parse

end ConceptScript
