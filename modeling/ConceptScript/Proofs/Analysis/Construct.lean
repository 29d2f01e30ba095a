import ConceptScript.Analysis.Basic
import ConceptScript.Proofs.Script.Locality
import ConceptScript.Proofs.Token.Span

/-!
Contract: the construct a cursor is in does not depend on what follows the line of the cursor.

A construct is the keyword of the concept at an offset and the concepts whose blocks are open there.
Two parses are compared, one of some tokens and one of the same tokens with further ones behind the
offset. They take the same steps up to the last barrier they have in common. What they report behind
it differs, but only about tokens that start behind the offset.

Owns constructs as folds over events, which events leave them as they are, and the same for the
comment at the offset.

Does not own the other things a cursor records.
-/

set_option autoImplicit false

namespace ConceptScript

/-- The keyword of the concept at an offset, and the concepts whose blocks are open there. -/
structure Construct where
  keyword : Option Token := none
  context : List Concept := []

def Cursor.construct (cursor : Cursor) : Construct :=
  ⟨cursor.keyword, cursor.context⟩

namespace Construct

/-! ## Constructs of events -/

def onContext (offset : Nat) (construct : Construct) (reader : Reader) (stack : List Concept) :
    Construct :=
  match reader.last? with
  | some last => if last.stop ≤ offset then { construct with context := stack } else construct
  | none => construct

/-- What an event says about the construct at an offset. -/
def step (offset : Nat) (construct : Construct) : Event → Construct
  | .keyword reader word =>
    match Cursor.boundary? reader word with
    | some token =>
      if token.start ≤ offset then { construct with keyword := word.map fun _ => token }
      else construct
    | none => construct
  | .member _ _ _ _ => construct
  | .opened reader stack => onContext offset construct reader stack
  | .closed reader stack => onContext offset construct reader stack

def after (offset : Nat) (events : List Event) (construct : Construct) : Construct :=
  events.foldl (step offset) construct

@[simp]
theorem after_nil (offset : Nat) (construct : Construct) : after offset [] construct = construct :=
  rfl

@[simp]
theorem after_cons (offset : Nat) (event : Event) (events : List Event) (construct : Construct) :
    after offset (event :: events) construct = after offset events (step offset construct event) :=
  rfl

@[simp]
theorem after_append (offset : Nat) (front back : List Event) (construct : Construct) :
    after offset (front ++ back) construct = after offset back (after offset front construct) :=
  List.foldl_append

theorem construct_onContext
    (target : Target) (cursor : Cursor) (reader : Reader) (stack : List Concept) :
    (cursor.onContext target reader stack).construct =
      onContext target.offset cursor.construct reader stack := by
  unfold Cursor.onContext onContext
  cases reader.last? with
  | none => rfl
  | some last =>
    dsimp only
    split <;> rfl

theorem construct_step (target : Target) (cursor : Cursor) (event : Event) :
    (cursor.step target event).construct = step target.offset cursor.construct event := by
  cases event with
  | keyword reader word =>
    simp only [Cursor.step, Cursor.onKeyword, step]
    cases Cursor.boundary? reader word with
    | none => rfl
    | some token =>
      dsimp only
      split
      · cases word <;> rfl
      · rfl
  | member reader concept member value =>
    simp only [Cursor.step, Cursor.onMember, step]
    split <;> rfl
  | opened reader stack => exact construct_onContext target cursor reader stack
  | closed reader stack => exact construct_onContext target cursor reader stack

/-- The keyword and the context of a cursor are determined by themselves. -/
theorem construct_ofEvents (target : Target) (events : List Event) :
    (Cursor.ofEvents target events).construct = after target.offset events {} := by
  suffices folded : ∀ cursor : Cursor, (events.foldl (Cursor.step target) cursor).construct =
      after target.offset events cursor.construct from folded {}
  induction events with
  | nil => exact fun _ => rfl
  | cons event events inductionHypothesis =>
    intro cursor
    rw [List.foldl_cons, inductionHypothesis, construct_step, after_cons]

/-! ## Events that do not depend on further tokens -/

/-- A boundary that is found at its place is found there whatever follows. -/
theorem boundary?_extend
    {reader : Reader} {word : Option String}
    (isFound : (Cursor.boundary? reader word).isSome = true)
    (tail : List Token) (stop : Nat) :
    Cursor.boundary? (reader.extend tail stop) word = Cursor.boundary? reader word := by
  obtain ⟨consumed, rest, oldStop⟩ := reader
  cases rest with
  | cons token rest => cases word <;> cases consumed <;> rfl
  | nil =>
    cases consumed with
    | cons last consumed =>
      cases word with
      | none => rfl
      | some word => cases isFound
    | nil => cases word <;> cases isFound

/-- An event whose boundary, where it has one, is found at its place. -/
def Anchored : Event → Prop
  | .keyword reader word => (Cursor.boundary? reader word).isSome = true
  | .member _ _ _ _ | .opened _ _ | .closed _ _ => True

theorem step_extend
    {event : Event}
    (anchored : Anchored event)
    (offset : Nat) (construct : Construct) (tail : List Token) (stop : Nat) :
    step offset construct (event.extend tail stop) = step offset construct event := by
  cases event with
  | keyword reader word => simp only [Event.extend, step, boundary?_extend anchored]
  | member reader concept member value => rfl
  | opened reader stack => rfl
  | closed reader stack => rfl

theorem after_extend
    {events : List Event}
    (anchored : ∀ event ∈ events, Anchored event)
    (offset : Nat) (construct : Construct) (tail : List Token) (stop : Nat) :
    after offset (events.map (Event.extend tail stop)) construct =
      after offset events construct := by
  induction events generalizing construct with
  | nil => rfl
  | cons event events inductionHypothesis =>
    have eventAnchored := anchored event List.mem_cons_self
    have laterAnchored := fun later member => anchored later (List.mem_cons_of_mem event member)
    rw [List.map_cons, after_cons, after_cons, step_extend eventAnchored,
      inductionHypothesis laterAnchored]

/-! ## Events of one concept -/

theorem after_members
    {events : List Event}
    (allMembers : ∀ event ∈ events, event.IsMember)
    (offset : Nat) (construct : Construct) :
    after offset events construct = construct := by
  induction events with
  | nil => rfl
  | cons event events inductionHypothesis =>
    rw [List.forall_mem_cons] at allMembers
    obtain ⟨reader, concept, declared, value, rfl⟩ := allMembers.1.exists_eq
    exact inductionHypothesis allMembers.2

theorem after_readConcept
    (catalog : Catalog) (stack : List Concept) (reader : Reader) (keyword : Token)
    (offset : Nat) (construct : Construct) :
    after offset (Parse.readConcept catalog stack reader keyword).1 construct =
      step offset construct (.keyword reader (Parse.word keyword)) := by
  obtain ⟨members, isEvents, allMembers⟩ :=
    Parse.exists_readConcept_events catalog stack reader keyword
  rw [isEvents, after_cons, after_members allMembers]

theorem anchored_keyword
    {reader : Reader} {keyword : Token} {behind : List Token}
    (isRest : reader.rest = keyword :: behind)
    (word : Option String) :
    Anchored (.keyword reader word) := by
  obtain ⟨consumed, rest, stop⟩ := reader
  obtain rfl : rest = keyword :: behind := isRest
  cases word <;> cases consumed <;> rfl

theorem anchored_readConcept
    {catalog : Catalog} {stack : List Concept} {reader : Reader} {keyword : Token}
    {behind : List Token}
    (isRest : reader.rest = keyword :: behind) :
    ∀ event ∈ (Parse.readConcept catalog stack reader keyword).1, Anchored event := by
  obtain ⟨members, isEvents, allMembers⟩ :=
    Parse.exists_readConcept_events catalog stack reader keyword
  intro event reported
  rw [isEvents] at reported
  rcases List.mem_cons.1 reported with rfl | isMember
  · exact anchored_keyword isRest (Parse.word keyword)
  · have member := allMembers event isMember
    cases event with
    | member reader concept member value => trivial
    | keyword reader word => cases member
    | opened reader stack => trivial
    | closed reader stack => trivial

theorem anchored_step
    {catalog : Catalog} {state later : Parse.State} {events : List Event}
    {concepts : List Concept}
    (step : Parse.Step catalog state events concepts later) :
    ∀ event ∈ events, Anchored event := by
  intro event reported
  cases step with
  | closes isBrace =>
    obtain rfl := List.mem_singleton.1 reported
    trivial
  | ends isRest isRead isMark =>
    rcases List.mem_append.1 reported with ofConcept | ofMark
    · exact anchored_readConcept isRest event ofConcept
    · obtain rfl := List.mem_singleton.1 ofMark
      rfl
  | opens isRest isRead isMark =>
    rcases List.mem_append.1 reported with ofConcept | ofMark
    · exact anchored_readConcept isRest event ofConcept
    · simp only [List.mem_cons, List.not_mem_nil, or_false] at ofMark
      rcases ofMark with rfl | rfl
      · trivial
      · rfl

theorem anchored_steps
    {catalog : Catalog} {state later : Parse.State} {events : List Event}
    {concepts : List Concept}
    (steps : Parse.Steps catalog state events concepts later) :
    ∀ event ∈ events, Anchored event := by
  induction steps with
  | refl => simp
  | head step _ inductionHypothesis =>
    intro event reported
    rcases List.mem_append.1 reported with ofStep | ofLater
    · exact anchored_step step event ofStep
    · exact inductionHypothesis event ofLater

theorem anchored_halts
    {catalog : Catalog} {state : Parse.State} {parse : Parse}
    (halts : Parse.Halts catalog state parse) :
    ∀ event ∈ parse.events, Anchored event := by
  cases halts with
  | finished => simp
  | unclosed => simp
  | unopened => simp
  | unread isRest => exact anchored_readConcept isRest
  | unended isRest => exact anchored_readConcept isRest

/-! ## States between concepts -/

/-- Between two concepts the offset is in none, or in one that ended behind it. -/
def Quiet (offset : Nat) (construct : Construct) (reader : Reader) : Prop :=
  construct.keyword = none ∨ ∀ last ∈ reader.last?, offset < last.start

/-- Behind the mark of a concept. -/
theorem quiet_of_mark
    (offset : Nat) (construct : Construct) (mark : Token) (consumed behind : List Token)
    (stop : Nat) :
    Quiet offset (step offset construct (.keyword ⟨mark :: consumed, behind, stop⟩ none))
      ⟨mark :: consumed, behind, stop⟩ := by
  by_cases isBefore : mark.start ≤ offset
  · left
    simp [step, Cursor.boundary?, Reader.last?, isBefore]
  · right
    intro last isLast
    obtain rfl : mark = last := by simpa [Reader.last?] using isLast
    omega

theorem keyword_onContext
    (offset : Nat) (construct : Construct) (reader : Reader) (stack : List Concept) :
    (onContext offset construct reader stack).keyword = construct.keyword := by
  unfold onContext
  cases reader.last? with
  | none => rfl
  | some last =>
    dsimp only
    split <;> rfl

theorem quiet_step
    {catalog : Catalog} {state later : Parse.State} {events : List Event}
    {concepts : List Concept} {offset : Nat} {construct : Construct}
    (step : Parse.Step catalog state events concepts later)
    (ordered : state.reader.tokens.Pairwise fun earlier later => earlier.start < later.start)
    (quiet : Quiet offset construct state.reader) :
    Quiet offset (after offset events construct) later.reader := by
  cases step with
  | @closes innermost outer last brace consumed behind stop isBrace =>
    rcases quiet with noKeyword | isBehind
    · left
      simpa [after, Construct.step, keyword_onContext] using noKeyword
    · right
      intro other isLast
      obtain rfl : brace = other := by simpa [Reader.last?] using isLast
      have lastBehind : offset < last.start := isBehind last rfl
      have lastBefore : last.start < brace.start :=
        (List.pairwise_append.1 ordered).2.2 last (by simp) brace (by simp)
      omega
  | ends isRest isRead isMark =>
    rw [after_append]
    exact quiet_of_mark ..
  | opens isRest isRead isMark =>
    rw [after_append]
    exact quiet_of_mark ..

theorem quiet_steps
    {catalog : Catalog} {state later : Parse.State} {events : List Event}
    {concepts : List Concept} {offset : Nat} {construct : Construct}
    (steps : Parse.Steps catalog state events concepts later)
    (ordered : state.reader.tokens.Pairwise fun earlier later => earlier.start < later.start)
    (quiet : Quiet offset construct state.reader) :
    Quiet offset (after offset events construct) later.reader := by
  induction steps generalizing construct with
  | refl => exact quiet
  | head step _ inductionHypothesis =>
    rw [after_append]
    refine inductionHypothesis ?_ (quiet_step step ordered quiet)
    rw [step.reaches.tokens_eq]
    exact ordered

/-! ## Tokens behind the offset -/

def Late (offset : Nat) (tokens : List Token) : Prop :=
  ∀ token ∈ tokens, offset < token.start ∧ offset < token.stop

theorem onContext_of_late
    {offset : Nat} {last : Token}
    (isLate : offset < last.stop)
    (construct : Construct) (consumed rest : List Token) (stop : Nat) (stack : List Concept) :
    onContext offset construct ⟨last :: consumed, rest, stop⟩ stack = construct := by
  have notBefore : ¬ last.stop ≤ offset := by omega
  simp [onContext, Reader.last?, notBefore]

theorem step_opened_of_late
    {offset : Nat} {mark : Token}
    (isLate : offset < mark.stop)
    (construct : Construct) (consumed rest : List Token) (stop : Nat) (stack : List Concept) :
    step offset construct (.opened ⟨mark :: consumed, rest, stop⟩ stack) = construct :=
  onContext_of_late isLate construct consumed rest stop stack

theorem step_mark_of_late
    {offset : Nat} {mark : Token}
    (isLate : offset < mark.start)
    (construct : Construct) (consumed rest : List Token) (stop : Nat) :
    step offset construct (.keyword ⟨mark :: consumed, rest, stop⟩ none) = construct := by
  have notBefore : ¬ mark.start ≤ offset := by omega
  simp [step, Cursor.boundary?, Reader.last?, notBefore]

/-- At a token behind the offset, a concept is reported, or the end of the one before again. -/
theorem step_keyword_of_late
    {offset : Nat} {construct : Construct} {reader : Reader} {keyword : Token}
    {behind : List Token}
    (isRest : reader.rest = keyword :: behind)
    (isLate : offset < keyword.start)
    (quiet : Quiet offset construct reader) :
    step offset construct (.keyword reader (Parse.word keyword)) = construct := by
  obtain ⟨consumed, rest, stop⟩ := reader
  obtain rfl : rest = keyword :: behind := isRest
  have notBefore : ¬ keyword.start ≤ offset := by omega
  cases isWord : Parse.word keyword with
  | some found => simp [step, Cursor.boundary?, Reader.peek?, notBefore]
  | none =>
    cases consumed with
    | nil => simp [step, Cursor.boundary?, Reader.last?, Reader.peek?, notBefore]
    | cons last consumed =>
      rcases quiet with noKeyword | isBehind
      · obtain ⟨found, context⟩ := construct
        obtain rfl : found = none := noKeyword
        simp only [step, Cursor.boundary?, Reader.last?, List.head?_cons, Option.map_none]
        split <;> rfl
      · exact step_mark_of_late (isBehind last rfl) construct consumed _ stop

theorem late_of_reaches
    {offset : Nat} {reader later : Reader}
    (late : Late offset reader.rest)
    (reached : reader.Reaches later) :
    Late offset later.rest := by
  obtain ⟨taken, isRest, _⟩ := reached
  intro token member
  exact late token (by simp [isRest, member])

theorem quiet_of_late
    {offset : Nat} {mark : Token}
    (isLate : offset < mark.start)
    (construct : Construct) (consumed rest : List Token) (stop : Nat) :
    Quiet offset construct ⟨mark :: consumed, rest, stop⟩ := by
  right
  intro last isLast
  obtain rfl : mark = last := by simpa [Reader.last?] using isLast
  exact isLate

/-- A step over tokens behind the offset. -/
theorem after_step_of_late
    {catalog : Catalog} {state later : Parse.State} {events : List Event}
    {concepts : List Concept} {offset : Nat} {construct : Construct}
    (late : Late offset state.reader.rest)
    (quiet : Quiet offset construct state.reader)
    (step : Parse.Step catalog state events concepts later) :
    after offset events construct = construct ∧ Quiet offset construct later.reader := by
  cases step with
  | @closes innermost outer last brace consumed behind stop isBrace =>
    obtain ⟨startLate, stopLate⟩ := late brace List.mem_cons_self
    exact ⟨onContext_of_late stopLate construct (last :: consumed) behind stop outer,
      quiet_of_late startLate ..⟩
  | @ends stack reader keyword mark tail concept consumed behind stop isRest isRead =>
    have keywordLate := (late keyword (by simp [isRest])).1
    have markLate := (late mark (Parse.mark_mem_rest isRest isRead)).1
    refine ⟨?_, quiet_of_late markLate ..⟩
    rw [after_append, after_readConcept, step_keyword_of_late isRest keywordLate quiet,
      after_cons, after_nil, step_mark_of_late markLate]
  | @opens stack reader keyword mark tail concept consumed behind stop isRest isRead =>
    have keywordLate := (late keyword (by simp [isRest])).1
    obtain ⟨markLate, markStopLate⟩ := late mark (Parse.mark_mem_rest isRest isRead)
    refine ⟨?_, quiet_of_late markLate ..⟩
    rw [after_append, after_readConcept, step_keyword_of_late isRest keywordLate quiet,
      after_cons, after_cons, after_nil, step_mark_of_late markLate,
      step_opened_of_late markStopLate]

theorem after_halts_of_late
    {catalog : Catalog} {state : Parse.State} {parse : Parse} {offset : Nat}
    {construct : Construct}
    (late : Late offset state.reader.rest)
    (quiet : Quiet offset construct state.reader)
    (halts : Parse.Halts catalog state parse) :
    after offset parse.events construct = construct := by
  cases halts with
  | finished => rfl
  | unclosed => rfl
  | unopened => rfl
  | @unread stack reader keyword tail fault isRest =>
    have keywordLate := (late keyword (by simp [isRest])).1
    rw [after_readConcept, step_keyword_of_late isRest keywordLate quiet]
  | @unended stack reader next keyword tail concept isRest =>
    have keywordLate := (late keyword (by simp [isRest])).1
    rw [after_readConcept, step_keyword_of_late isRest keywordLate quiet]

theorem after_steps_of_late
    {catalog : Catalog} {state halted : Parse.State} {events : List Event}
    {concepts : List Concept} {parse : Parse} {offset : Nat} {construct : Construct}
    (late : Late offset state.reader.rest)
    (quiet : Quiet offset construct state.reader)
    (steps : Parse.Steps catalog state events concepts halted)
    (halts : Parse.Halts catalog halted parse) :
    after offset (events ++ parse.events) construct = construct := by
  induction steps with
  | refl => exact after_halts_of_late late quiet halts
  | head step _ inductionHypothesis =>
    obtain ⟨unchanged, laterQuiet⟩ := after_step_of_late late quiet step
    rw [List.append_assoc, after_append, unchanged]
    exact inductionHypothesis (late_of_reaches late step.reaches) laterQuiet halts

/-- What is parsed behind the offset does not change the construct at it. -/
theorem after_parse_of_late
    (catalog : Catalog) {state : Parse.State} {offset : Nat} {construct : Construct}
    (late : Late offset state.reader.rest)
    (quiet : Quiet offset construct state.reader) :
    after offset (state.parse catalog).events construct = construct := by
  obtain ⟨events, concepts, halted, parse, steps, halts⟩ :=
    Parse.exists_steps_halts catalog state
  rw [Parse.parse_eq_after steps halts]
  exact after_steps_of_late late quiet steps halts

/-! ## The concept that is begun in front of the offset -/

/-- The mark of a concept is a barrier, so it lies behind all tokens that are none. -/
theorem late_of_mark
    {catalog : Catalog} {stack : List Concept} {reader : Reader} {keyword mark : Token}
    {front back consumed behind : List Token} {stop offset : Nat} {concept : Concept}
    (isRest : reader.rest = keyword :: front ++ back)
    (isRead : (Parse.readConcept catalog stack reader keyword).2 =
      .ok (concept, ⟨consumed, mark :: behind, stop⟩))
    (isBarrier : mark.isBarrier = true)
    (noBarrier : ∀ token ∈ keyword :: front, token.isBarrier = false)
    (late : Late offset back) :
    Late offset (mark :: behind) := by
  obtain ⟨taken, isTaken, _⟩ := (Parse.readConcept_shorter isRest isRead).1
  simp only at isTaken
  rcases List.append_eq_append_iff.1 (isRest.symm.trans isTaken) with
    ⟨more, -, isBack⟩ | ⟨more, isFront, isBehind⟩
  · intro token member
    exact late token (by simp [isBack, member])
  · cases more with
    | nil =>
      rw [isBehind]
      exact late
    | cons other more =>
      obtain ⟨rfl, -⟩ := List.cons.inj isBehind
      rw [noBarrier mark (by simp [isFront])] at isBarrier
      cases isBarrier

/-- At a concept that has no mark in front of the offset, its keyword decides. -/
theorem after_parse_of_begun
    (catalog : Catalog) {stack : List Concept} {reader : Reader} {keyword : Token}
    {front back : List Token} {offset : Nat}
    (isRest : reader.rest = keyword :: front ++ back)
    (noBarrier : ∀ token ∈ keyword :: front, token.isBarrier = false)
    (late : Late offset back)
    (construct : Construct) :
    after offset (Parse.State.parse catalog ⟨stack, reader⟩).events construct =
      step offset construct (.keyword reader (Parse.word keyword)) := by
  obtain ⟨events, concepts, halted, parse, steps, halts⟩ :=
    Parse.exists_steps_halts catalog ⟨stack, reader⟩
  have notBarrier := noBarrier keyword List.mem_cons_self
  have notBrace : ∀ brace, brace.isSpecial "\x7d" = true → brace ≠ keyword := by
    rintro brace isBrace rfl
    rw [Token.isBarrier_of_isSpecial isBrace (by decide)] at notBarrier
    cases notBarrier
  rw [Parse.parse_eq_after steps halts]
  show after offset (events ++ parse.events) construct = _
  cases steps with
  | refl =>
    cases halts with
    | finished => cases isRest
    | unclosed => cases isRest
    | unopened isBrace => exact absurd (List.cons.inj isRest).1 (notBrace _ isBrace)
    | unread isOther =>
      obtain ⟨rfl, -⟩ := List.cons.inj (isOther.symm.trans isRest)
      exact after_readConcept ..
    | unended isOther =>
      obtain ⟨rfl, -⟩ := List.cons.inj (isOther.symm.trans isRest)
      exact after_readConcept ..
  | head step later =>
    cases step with
    | closes isBrace => exact absurd (List.cons.inj isRest).1 (notBrace _ isBrace)
    | @ends _ _ other mark tail concept consumed behind stop isOther isRead isMark =>
      obtain ⟨rfl, -⟩ := List.cons.inj (isOther.symm.trans isRest)
      have isBarrier := Token.isBarrier_of_isSpecial isMark (by decide)
      have allLate := late_of_mark isRest isRead isBarrier noBarrier late
      have markLate := (allLate mark List.mem_cons_self).1
      have behindLate : Late offset behind :=
        fun token member => allLate token (List.mem_cons_of_mem mark member)
      simp only [List.append_assoc, after_append, after_readConcept, after_cons, after_nil,
        step_mark_of_late markLate]
      rw [← after_append]
      exact after_steps_of_late behindLate (quiet_of_late markLate ..) later halts
    | @opens _ _ other mark tail concept consumed behind stop isOther isRead isMark =>
      obtain ⟨rfl, -⟩ := List.cons.inj (isOther.symm.trans isRest)
      have isBarrier := Token.isBarrier_of_isSpecial isMark (by decide)
      have allLate := late_of_mark isRest isRead isBarrier noBarrier late
      obtain ⟨markLate, markStopLate⟩ := allLate mark List.mem_cons_self
      have behindLate : Late offset behind :=
        fun token member => allLate token (List.mem_cons_of_mem mark member)
      simp only [List.append_assoc, after_append, after_readConcept, after_cons, after_nil,
        step_mark_of_late markLate, step_opened_of_late markStopLate]
      rw [← after_append]
      exact after_steps_of_late behindLate (quiet_of_late markLate ..) later halts

/-! ## Further tokens behind the offset -/

/-- From a state between two concepts, with a concept begun in front of the offset or none. -/
theorem after_parse_extend
    (catalog : Catalog) (stack : List Concept) (reader : Reader) {back : List Token}
    {offset : Nat} {construct : Construct}
    (quiet : Quiet offset construct reader)
    (noBarrier : ∀ token ∈ reader.rest, token.isBarrier = false)
    (late : Late offset back) (stop : Nat) :
    after offset (Parse.State.parse catalog ⟨stack, reader.extend back stop⟩).events construct =
      after offset (Parse.State.parse catalog ⟨stack, reader⟩).events construct := by
  cases isRest : reader.rest with
  | nil =>
    have extendedLate : Late offset (reader.extend back stop).rest := by
      simpa [Reader.extend, isRest] using late
    have nothingLate : Late offset reader.rest := by simp [Late, isRest]
    rw [after_parse_of_late catalog extendedLate quiet,
      after_parse_of_late catalog nothingLate quiet]
  | cons keyword begun =>
    have extendedRest : (reader.extend back stop).rest = keyword :: begun ++ back := by
      simp [Reader.extend, isRest]
    have sameRest : reader.rest = keyword :: begun ++ [] := by simp [isRest]
    have nothingLate : Late offset [] := by simp [Late]
    rw [isRest] at noBarrier
    rw [after_parse_of_begun catalog extendedRest noBarrier late,
      after_parse_of_begun catalog sameRest noBarrier nothingLate]
    exact step_extend (anchored_keyword isRest (Parse.word keyword)) offset construct back stop

/-- The construct at an offset is found in the tokens up to the offset. -/
theorem after_parse_append
    (catalog : Catalog) {front back : List Token} {offset : Nat}
    (ordered : front.Pairwise fun earlier later => earlier.start < later.start)
    (late : Late offset back) (frontStop stop : Nat) :
    after offset (catalog.parse (front ++ back) stop).events {} =
      after offset (catalog.parse front frontStop).events {} := by
  rcases Parse.parse_append_cases catalog front back frontStop stop with
    ⟨events, concepts, opened, steps, isFront, isWhole⟩ |
      ⟨events, concepts, halted, parse, steps, halts, -, isFront, isWhole⟩
  · have anchored := anchored_steps steps
    have endedOrdered : (Parse.ended front).Pairwise
        fun earlier later => earlier.start < later.start := by
      rw [← Parse.ended_append_begun front] at ordered
      exact (List.pairwise_append.1 ordered).1
    have quiet : Quiet offset (after offset events {})
        ⟨(Parse.ended front).reverse, Parse.begun front, frontStop⟩ :=
      quiet_steps steps endedOrdered (.inl rfl)
    rw [isFront, isWhole]
    simp only [Parse.after, after_append, after_extend anchored]
    exact after_parse_extend catalog opened _ quiet (fun _ => Parse.isBarrier_of_begun) late stop
  · have anchored := anchored_steps steps
    have haltAnchored := anchored_halts halts
    rw [isFront, isWhole]
    simp only [Parse.after, Parse.extend, after_append, after_extend anchored,
      after_extend haltAnchored]

end Construct

/-! ## Constructs of an analysis -/

/-- Tokens come in the order of the text. -/
theorem Stream.laid_tokens (text : Text) : Token.Laid (Stream.ofText text).tokens :=
  (Scan.lies_ofChars text.chars).laid.filter _

theorem Stream.ordered_tokens (text : Text) :
    (Stream.ofText text).tokens.Pairwise fun earlier later => earlier.start < later.start :=
  (Stream.laid_tokens text).starts_increase

namespace Analysis

variable {catalog : Catalog} {text : Text} {position : Position} {keyword : Token}

/-- Where a keyword is active, the cursor is that of the events. -/
theorem cursor_of_keyword
    (isKeyword : (ofText catalog text position).cursor.keyword = some keyword) :
    (ofText catalog text position).cursor =
      .ofEvents (.ofTokens (Stream.ofText text).tokens (text.offsetOf position))
        (catalog.parse (Stream.ofText text).tokens (Stream.ofText text).stop).events := by
  simp only [ofText] at isKeyword ⊢
  split
  · next isInside =>
    rw [if_pos isInside] at isKeyword
    cases isKeyword
  · rfl

theorem after_of_keyword
    (isKeyword : (ofText catalog text position).cursor.keyword = some keyword) :
    (Construct.after (text.offsetOf position) (catalog.parse (Stream.ofText text).tokens
      (Stream.ofText text).stop).events {}).keyword = some keyword := by
  have isConstruct := Construct.construct_ofEvents
    (.ofTokens (Stream.ofText text).tokens (text.offsetOf position))
    (catalog.parse (Stream.ofText text).tokens (Stream.ofText text).stop).events
  rw [← cursor_of_keyword isKeyword] at isConstruct
  exact (congrArg Construct.keyword isConstruct).symm.trans isKeyword

end Analysis

end ConceptScript
