import ConceptScript.Proofs.Analysis.EnclosingBlocks
import ConceptScript.Proofs.Analysis.Progress

/-!
Contract: the events of a parse, taken apart at the concept that an offset is in.

The concept with the active keyword is read inside of the context that the cursor records, so only
types that are allowed in the context are tried there. All keywords that are reported later start
behind the offset. They do not reset the candidates, so what is tried for them is added to what was
tried at the offset.

Owns that split, and the candidates of a cursor as what is tried in its last two parts.

Does not own which candidate is shown.
-/

set_option autoImplicit false

namespace ConceptScript

/-- A concept that is begun here begins behind an offset. -/
def Event.BeginsBehind (offset : Nat) : Event → Prop
  | .keyword reader (some _) => ∀ keyword ∈ reader.peek?, offset < keyword.start
  | .keyword _ none | .member _ _ _ _ | .opened _ _ | .closed _ _ => True

/-- Events that are made of those in front, those of the concept that an offset is in, and those
behind. -/
structure OwnConcept (catalog : Catalog) (offset : Nat) (context : List Concept) (keyword : Token)
    (events : List Event) where
  front : List Event
  reader : Reader
  behind : List Event
  isEvents : events = front ++ (Parse.readConcept catalog context reader keyword).1 ++ behind
  isKeyword : reader.peek? = some keyword
  isText : keyword.isText = true
  isBefore : keyword.start ≤ offset
  beginsBehind : ∀ event ∈ behind, event.BeginsBehind offset

/-! ## Concepts behind the offset -/

namespace Parse

variable {catalog : Catalog} {state later : State} {events : List Event} {concepts : List Concept}
  {offset : Nat}

theorem beginsBehind_of_isMember
    {event : Event}
    (isMember : event.IsMember) (offset : Nat) :
    event.BeginsBehind offset := by
  obtain ⟨reader, concept, declared, value, rfl⟩ := isMember.exists_eq
  trivial

theorem beginsBehind_readConcept
    {reader : Reader} {keyword : Token} {tail : List Token}
    (isRest : reader.rest = keyword :: tail)
    (late : Construct.Late offset reader.rest) (stack : List Concept) :
    ∀ event ∈ (readConcept catalog stack reader keyword).1, event.BeginsBehind offset := by
  have isLate := (late keyword (by simp [isRest])).1
  obtain ⟨members, isEvents, allMembers⟩ := exists_readConcept_events catalog stack reader keyword
  rw [isEvents, List.forall_mem_cons]
  refine ⟨?_, fun event isMember => beginsBehind_of_isMember (allMembers event isMember) offset⟩
  cases word keyword with
  | none => trivial
  | some word =>
    intro other isOther
    rw [Reader.peek?_of_rest isRest, Option.mem_some_iff] at isOther
    exact isOther ▸ isLate

theorem beginsBehind_step
    (step : Step catalog state events concepts later)
    (late : Construct.Late offset state.reader.rest) :
    ∀ event ∈ events, event.BeginsBehind offset := by
  cases step with
  | closes isBrace => exact List.forall_mem_singleton.2 trivial
  | ends isRest isRead isMark =>
    rw [List.forall_mem_append]
    exact ⟨beginsBehind_readConcept isRest late _, List.forall_mem_singleton.2 trivial⟩
  | opens isRest isRead isMark =>
    rw [List.forall_mem_append, List.forall_mem_cons, List.forall_mem_singleton]
    exact ⟨beginsBehind_readConcept isRest late _, trivial, trivial⟩

theorem beginsBehind_halts
    {parse : Parse}
    (halts : Halts catalog state parse)
    (late : Construct.Late offset state.reader.rest) :
    ∀ event ∈ parse.events, event.BeginsBehind offset := by
  cases halts with
  | finished | unclosed | unopened => exact List.forall_mem_nil _
  | unread isRest => exact beginsBehind_readConcept isRest late _
  | unended isRest => exact beginsBehind_readConcept isRest late _

/-- Where all tokens to come lie behind the offset, so do all concepts. -/
theorem beginsBehind_parse
    (catalog : Catalog) (state : State)
    (late : Construct.Late offset state.reader.rest) :
    ∀ event ∈ (state.parse catalog).events, event.BeginsBehind offset := by
  obtain ⟨events, concepts, halted, parse, steps, halts⟩ := exists_steps_halts catalog state
  rw [parse_eq_after steps halts]
  show ∀ event ∈ events ++ parse.events, event.BeginsBehind offset
  induction steps with
  | refl => exact beginsBehind_halts halts late
  | head step _ inductionHypothesis =>
    rw [List.append_assoc, List.forall_mem_append]
    refine ⟨beginsBehind_step step late, ?_⟩
    exact inductionHypothesis (Construct.late_of_reaches late step.reaches) halts

theorem events_of_step (step : Step catalog state events concepts later) :
    (state.parse catalog).events = events ++ (later.parse catalog).events := by
  rw [parse_of_step step]
  rfl

/-- A step over a concept reports the concept first, and then nothing that begins one. -/
theorem Step.exists_marks
    {concept : Concept} {keyword : Token}
    (step : Step catalog state events [concept] later)
    (isKeyword : state.reader.peek? = some keyword) (offset : Nat) :
    keyword.isText = true ∧
      ∃ marks, events = (readConcept catalog state.stack state.reader keyword).1 ++ marks ∧
        ∀ event ∈ marks, event.BeginsBehind offset := by
  cases step with
  | ends isRest isRead =>
    obtain rfl := Option.some.inj (isKeyword.symm.trans (Reader.peek?_of_rest isRest))
    exact ⟨isText_of_readConcept isRead, _, rfl, List.forall_mem_singleton.2 trivial⟩
  | opens isRest isRead =>
    obtain rfl := Option.some.inj (isKeyword.symm.trans (Reader.peek?_of_rest isRest))
    refine ⟨isText_of_readConcept isRead, _, rfl, ?_⟩
    rw [List.forall_mem_cons, List.forall_mem_singleton]
    exact ⟨trivial, trivial⟩

theorem Halts.events_of_isText
    {parse : Parse} {keyword : Token}
    (halts : Halts catalog state parse)
    (isKeyword : state.reader.peek? = some keyword)
    (isText : keyword.isText = true) :
    parse.events = (readConcept catalog state.stack state.reader keyword).1 := by
  cases halts with
  | finished => cases isKeyword
  | unclosed => cases isKeyword
  | unopened isBrace =>
    obtain rfl := Option.some.inj isKeyword
    rw [isSpecial_eq_false_of_isText isText] at isBrace
    cases isBrace
  | unread isRest =>
    obtain rfl := Option.some.inj (isKeyword.symm.trans (Reader.peek?_of_rest isRest))
    rfl
  | unended isRest =>
    obtain rfl := Option.some.inj (isKeyword.symm.trans (Reader.peek?_of_rest isRest))
    rfl

end Parse

/-! ## The concept that the offset is in -/

namespace OwnConcept

variable {catalog : Catalog} {offset : Nat} {context : List Concept} {keyword : Token}
  {events : List Event}

/-- Further events in front. -/
def prepend (own : OwnConcept catalog offset context keyword events) (earlier : List Event) :
    OwnConcept catalog offset context keyword (earlier ++ events) where
  front := earlier ++ own.front
  reader := own.reader
  behind := own.behind
  isEvents := by simpa using own.isEvents
  isKeyword := own.isKeyword
  isText := own.isText
  isBefore := own.isBefore
  beginsBehind := own.beginsBehind

/-- The events in front are those of the steps that lead to the concept, inside of the context. -/
def IsReached (own : OwnConcept catalog offset context keyword events) (state : Parse.State) :
    Prop :=
  ∃ concepts, Parse.Steps catalog state own.front concepts ⟨context, own.reader⟩

theorem IsReached.prepend
    {own : OwnConcept catalog offset context keyword events} {state later : Parse.State}
    {earlier : List Event} {concepts : List Concept}
    (isReached : own.IsReached later)
    (step : Parse.Step catalog state earlier concepts later) :
    (own.prepend earlier).IsReached state := by
  obtain ⟨laterConcepts, steps⟩ := isReached
  exact ⟨concepts ++ laterConcepts, .head step steps⟩

end OwnConcept

namespace Construct

variable {catalog : Catalog} {state later : Parse.State} {events : List Event} {offset : Nat}
  {construct : Construct} {active : Token}

/-- A step in front of the offset leaves the concept that the offset is in to what follows. -/
theorem own_of_later
    {concepts : List Concept} {last : Token}
    (step : Parse.Step catalog state events concepts later)
    (isLast : later.reader.last? = some last)
    (laid : Token.Laid state.reader.tokens)
    (isContext : construct.context = state.stack)
    (isNone : (after offset events construct).keyword = none)
    (isActive : (after offset (state.parse catalog).events construct).keyword = some active)
    (laterOwn : ∀ construct : Construct, construct.keyword = none →
      construct.context = later.stack →
      (after offset (later.parse catalog).events construct).keyword = some active →
      ∃ own : OwnConcept catalog offset
        (after offset (later.parse catalog).events construct).context active
        (later.parse catalog).events, own.IsReached later) :
    ∃ own : OwnConcept catalog offset
      (after offset (state.parse catalog).events construct).context active
      (state.parse catalog).events, own.IsReached state := by
  rw [Parse.events_of_step step, after_append] at isActive ⊢
  by_cases lastBefore : last.stop ≤ offset
  · have laterContext : (after offset events construct).context = later.stack := by
      rw [context_after_step step isLast isContext, if_pos lastBefore]
    obtain ⟨own, isReached⟩ := laterOwn _ isNone laterContext isActive
    exact ⟨own.prepend events, isReached.prepend step⟩
  · -- Behind the offset no keyword becomes active any more.
    have restLate := (laid.of_step step).late_rest isLast (by omega : offset < last.stop)
    rw [after_parse_of_late catalog restLate (.inl isNone), isNone] at isActive
    cases isActive

theorem exists_own
    {moves : List Parse.Move}
    (trace : Parse.Trace catalog state moves)
    (laid : Token.Laid state.reader.tokens)
    (isNone : construct.keyword = none)
    (isContext : construct.context = state.stack)
    (isActive : (after offset (state.parse catalog).events construct).keyword = some active) :
    ∃ own : OwnConcept catalog offset
      (after offset (state.parse catalog).events construct).context active
      (state.parse catalog).events, own.IsReached state := by
  induction trace generalizing construct with
  | @reads state later events concept keyword mark moves step isKeyword isMark goesOn
      inductionHypothesis =>
    have isBegun := keyword_after_reads step isKeyword isMark offset construct
    by_cases markBefore : mark.start ≤ offset
    · rw [if_pos markBefore] at isBegun
      exact own_of_later step isMark laid isContext isBegun isActive
        fun _ => inductionHypothesis (laid.of_step step)
    · have markEnds : mark.start < mark.stop :=
        laid.notEmpty mark (List.mem_append_right _ (step.last_mem_rest isMark))
      have restLate := (laid.of_step step).late_rest isMark (by omega : offset < mark.stop)
      have quiet : Quiet offset (after offset events construct) later.reader :=
        quiet_step step laid.starts_increase (.inl isNone)
      have sameContext : (after offset events construct).context = state.stack := by
        rw [context_after_step step isMark isContext, if_neg (by omega)]
      rw [if_neg markBefore, isNone] at isBegun
      rw [Parse.events_of_step step, after_append, after_parse_of_late catalog restLate quiet]
        at isActive ⊢
      rw [isBegun] at isActive
      rw [sameContext]
      split at isActive
      · next keywordBefore =>
        obtain rfl := Option.some.inj isActive
        obtain ⟨isText, marks, isEvents, marksBehind⟩ := step.exists_marks isKeyword offset
        refine ⟨⟨[], state.reader, marks ++ (later.parse catalog).events, ?_, isKeyword, isText,
          keywordBefore, ?_⟩, [], .refl state⟩
        · simp [isEvents]
        · rw [List.forall_mem_append]
          exact ⟨marksBehind, Parse.beginsBehind_parse catalog later restLate⟩
      · cases isActive
  | closes step isBrace goesOn inductionHypothesis =>
    exact own_of_later step isBrace laid isContext ((keyword_after_closes step).trans isNone)
      isActive fun _ => inductionHypothesis (laid.of_step step)
  | @breaksOff state parse keyword halts isKeyword isText =>
    rw [Parse.parse_of_halts halts] at isActive ⊢
    rw [keyword_after_breaksOff halts isKeyword isText, isNone] at isActive
    rw [context_after_halts halts, isContext]
    split at isActive
    · next keywordBefore =>
      obtain rfl := Option.some.inj isActive
      refine ⟨⟨[], state.reader, [], ?_, isKeyword, isText, keywordBefore,
        List.forall_mem_nil _⟩, [], .refl state⟩
      simp [halts.events_of_isText isKeyword isText]
    · cases isActive
  | stops halts noKeyword =>
    rw [Parse.parse_of_halts halts, keyword_after_stops halts noKeyword isNone] at isActive
    cases isActive

end Construct

namespace Analysis

variable {catalog : Catalog} {text : Text} {position : Position} {keyword : Token}

theorem exists_reached_of_active
    (isKeyword : (ofText catalog text position).cursor.keyword = some keyword) :
    ∃ own : OwnConcept catalog (text.offsetOf position)
      (ofText catalog text position).cursor.context keyword
      (catalog.parse (Stream.ofText text).tokens (Stream.ofText text).stop).events,
      own.IsReached (.initial (Stream.ofText text).tokens (Stream.ofText text).stop) := by
  obtain ⟨moves, trace⟩ := Parse.exists_trace catalog
    (.initial (Stream.ofText text).tokens (Stream.ofText text).stop)
  have isConstruct := Construct.construct_ofEvents
    (.ofTokens (Stream.ofText text).tokens (text.offsetOf position))
    (catalog.parse (Stream.ofText text).tokens (Stream.ofText text).stop).events
  rw [← cursor_of_keyword isKeyword] at isConstruct
  have sameContext : (ofText catalog text position).cursor.context =
      (Construct.after (text.offsetOf position) (catalog.parse (Stream.ofText text).tokens
        (Stream.ofText text).stop).events {}).context :=
    congrArg Construct.context isConstruct
  have own := Construct.exists_own trace (Stream.laid_tokens text) rfl rfl
    (after_of_keyword isKeyword)
  rw [sameContext]
  exact own

theorem exists_own_of_active
    (isKeyword : (ofText catalog text position).cursor.keyword = some keyword) :
    Nonempty (OwnConcept catalog (text.offsetOf position)
      (ofText catalog text position).cursor.context keyword
      (catalog.parse (Stream.ofText text).tokens (Stream.ofText text).stop).events) := by
  obtain ⟨own, -⟩ := exists_reached_of_active isKeyword
  exact ⟨own⟩

end Analysis

/-! ## What is tried up to the offset -/

/-- The type of a member that was tried, if the last token consumed by then is not in front of the
last one that starts at or before the offset. -/
def Target.reached? (target : Target) : Event → Option ConceptType
  | .member reader concept _ _ =>
    match reader.last?, target.before with
    | some last, some before => if before.start ≤ last.start then some concept.type else none
    | _, _ => none
  | .keyword _ _ | .opened _ _ | .closed _ _ => none

theorem Target.exists_concept_of_reached
    {target : Target} {event : Event} {type : ConceptType}
    (isReached : target.reached? event = some type) :
    ∃ concept, event.concept? = some concept ∧ concept.type = type := by
  cases event with
  | member reader concept member value =>
    refine ⟨concept, rfl, ?_⟩
    simp only [reached?] at isReached
    split at isReached
    · split at isReached
      · exact Option.some.inj isReached
      · cases isReached
    · cases isReached
  | keyword reader word => cases isReached
  | opened reader stack => cases isReached
  | closed reader stack => cases isReached

namespace OwnConcept

variable {catalog : Catalog} {offset : Nat} {context : List Concept} {keyword : Token}
  {events : List Event}

/-- The types that are tried up to the offset or beyond in the concept that the offset is in. -/
def tried (own : OwnConcept catalog offset context keyword events) (target : Target) :
    List ConceptType :=
  (Parse.readConcept catalog context own.reader keyword).1.filterMap target.reached?

/-- The types that are tried for concepts behind the offset. -/
def triedLater (own : OwnConcept catalog offset context keyword events) (target : Target) :
    List ConceptType :=
  own.behind.filterMap target.reached?

end OwnConcept

namespace Cursor

variable {catalog : Catalog} {target : Target} {cursor : Cursor} {events : List Event}

/-- The candidates are of types of the catalog. -/
def Known (catalog : Catalog) (candidates : List Concept) : Prop :=
  ∀ candidate ∈ candidates, candidate.type ∈ catalog.types

theorem type_mem_addCandidate_iff
    {candidates : List Concept} {concept : Concept}
    (known : Known catalog candidates)
    (isType : concept.type ∈ catalog.types) (type : ConceptType) :
    type ∈ (addCandidate candidates concept).map Concept.type ↔
      type ∈ candidates.map Concept.type ∨ type = concept.type := by
  unfold addCandidate
  split
  · next isThere =>
    obtain ⟨candidate, isCandidate, sameName⟩ := List.any_eq_true.1 isThere
    have sameType : candidate.type = concept.type :=
      Catalog.eq_of_name_eq (known candidate isCandidate) isType (eq_of_beq sameName)
    constructor
    · exact .inl
    · rintro (isOld | rfl)
      · exact isOld
      · exact List.mem_map.2 ⟨candidate, isCandidate, sameType⟩
  · simp

theorem known_step
    {event : Event}
    (known : Known catalog cursor.candidates)
    (isType : ∀ concept ∈ event.concept?, concept.type ∈ catalog.types) :
    Known catalog (cursor.step target event).candidates := by
  intro candidate isCandidate
  rcases candidates_step isCandidate with isOld | isConcept
  · exact known candidate isOld
  · exact isType candidate isConcept

/-- As long as no concept begins up to the offset, candidates are only added. -/
theorem type_mem_candidates_step_iff
    {event : Event}
    (known : Known catalog cursor.candidates)
    (isType : ∀ concept ∈ event.concept?, concept.type ∈ catalog.types)
    (beginsBehind : event.BeginsBehind target.offset) (type : ConceptType) :
    type ∈ (cursor.step target event).candidates.map Concept.type ↔
      type ∈ cursor.candidates.map Concept.type ∨ target.reached? event = some type := by
  cases event with
  | keyword reader word =>
    have unchanged : (cursor.onKeyword target reader word).candidates = cursor.candidates := by
      unfold onKeyword
      split
      · rfl
      · next token isBoundary =>
        split
        · next isBefore =>
          cases word with
          | none => rfl
          | some word =>
            have isBehind : target.offset < token.start := beginsBehind token isBoundary
            omega
        · rfl
    rw [step, unchanged]
    simp [Target.reached?]
  | opened reader stack =>
    obtain ⟨context, isCursor⟩ := exists_context_onContext target cursor reader stack
    rw [step, isCursor]
    simp [Target.reached?]
  | closed reader stack =>
    obtain ⟨context, isCursor⟩ := exists_context_onContext target cursor reader stack
    rw [step, isCursor]
    simp [Target.reached?]
  | member reader concept member value =>
    simp only [step, onMember, Target.reached?]
    cases reader.last? with
    | none => simp
    | some last =>
      cases target.before with
      | none => simp
      | some before =>
        dsimp only
        split
        · rw [type_mem_addCandidate_iff known (isType concept rfl), Option.some.injEq,
            @eq_comm _ type]
        · simp

theorem type_mem_candidates_foldl_iff
    (known : Known catalog cursor.candidates)
    (isType : ∀ event ∈ events, ∀ concept ∈ event.concept?, concept.type ∈ catalog.types)
    (beginsBehind : ∀ event ∈ events, event.BeginsBehind target.offset) (type : ConceptType) :
    type ∈ (events.foldl (step target) cursor).candidates.map Concept.type ↔
      type ∈ cursor.candidates.map Concept.type ∨ type ∈ events.filterMap target.reached? := by
  induction events generalizing cursor with
  | nil => simp
  | cons event events inductionHypothesis =>
    rw [List.forall_mem_cons] at isType beginsBehind
    have ofEvent := type_mem_candidates_step_iff known isType.1 beginsBehind.1 type
    have laterKnown : Known catalog (cursor.step target event).candidates :=
      known_step known isType.1
    rw [List.foldl_cons, inductionHypothesis laterKnown isType.2 beginsBehind.2, ofEvent, or_assoc]
    simp only [List.mem_filterMap, List.mem_cons, exists_eq_or_imp]

/-- The keyword of the concept that the offset is in forgets all candidates. -/
theorem candidates_of_own
    {reader : Reader} {keyword : Token}
    (isKeyword : reader.peek? = some keyword)
    (isBefore : keyword.start ≤ target.offset) (word : String) :
    (cursor.step target (.keyword reader (some word))).candidates = [] := by
  have isBoundary : boundary? reader (some word) = some keyword := isKeyword
  simp [step, onKeyword, isBoundary, isBefore]

end Cursor

namespace OwnConcept

variable {catalog : Catalog} {context : List Concept} {keyword : Token} {events : List Event}
  {target : Target}

/-- First the keyword is reported, and then what is tried for it. -/
theorem events_eq (own : OwnConcept catalog target.offset context keyword events) :
    events = own.front ++ .keyword own.reader (some keyword.value) ::
      ((Parse.attemptsAt catalog context own.reader keyword).flatMap Prod.fst ++ own.behind) := by
  have isEvents := own.isEvents
  rw [Parse.readConcept_of_isText own.isText] at isEvents
  simpa using isEvents

theorem tried_eq (own : OwnConcept catalog target.offset context keyword events) :
    own.tried target = ((Parse.attemptsAt catalog context own.reader keyword).flatMap
      Prod.fst).filterMap target.reached? := by
  rw [tried, Parse.readConcept_of_isText own.isText]
  rfl

/-- The types of all candidates: those tried where the offset is, and those tried later. -/
theorem type_mem_candidates_iff
    (own : OwnConcept catalog target.offset context keyword events)
    (isType : ∀ event ∈ events, ∀ concept ∈ event.concept?, concept.type ∈ catalog.types)
    (type : ConceptType) :
    type ∈ (Cursor.ofEvents target events).candidates.map Concept.type ↔
      type ∈ own.tried target ∨ type ∈ own.triedLater target := by
  let members := (Parse.attemptsAt catalog context own.reader keyword).flatMap Prod.fst
  let begun : Cursor := (own.front.foldl (Cursor.step target) {}).step target
    (.keyword own.reader (some keyword.value))
  have isBegun : Cursor.ofEvents target events =
      (members ++ own.behind).foldl (Cursor.step target) begun := by
    refine (congrArg (Cursor.ofEvents target) own.events_eq).trans ?_
    rw [Cursor.ofEvents, List.foldl_append, List.foldl_cons]
  have noCandidate : begun.candidates = [] :=
    Cursor.candidates_of_own own.isKeyword own.isBefore keyword.value
  have known : Cursor.Known catalog begun.candidates := by simp [Cursor.Known, noCandidate]
  have laterType : ∀ event ∈ members ++ own.behind, ∀ concept ∈ event.concept?,
      concept.type ∈ catalog.types := by
    intro event isLater
    have isEvent := List.mem_append_right own.front
      (List.mem_cons_of_mem (.keyword own.reader (some keyword.value)) isLater)
    rw [← own.events_eq] at isEvent
    exact isType event isEvent
  have laterBehind : ∀ event ∈ members ++ own.behind, event.BeginsBehind target.offset := by
    rw [List.forall_mem_append]
    refine ⟨?_, own.beginsBehind⟩
    intro event isMember
    obtain ⟨type, -, isReported⟩ := Occurrence.exists_attempt_of_mem isMember
    exact Parse.beginsBehind_of_isMember (Parse.isMember_readMembers isReported) _
  rw [isBegun, Cursor.type_mem_candidates_foldl_iff known laterType laterBehind, noCandidate,
    List.filterMap_append, List.mem_append, own.tried_eq]
  simp [triedLater, members]

/-- What is tried where the offset is belongs to the keyword, and is allowed in the context. -/
theorem applicable_of_tried
    (own : OwnConcept catalog target.offset context keyword events) {type : ConceptType}
    (isTried : type ∈ own.tried target) :
    type ∈ catalog.typesFor keyword.value ∧ Parse.applicable context type = true := by
  rw [own.tried_eq] at isTried
  obtain ⟨event, isMember, isReached⟩ := List.mem_filterMap.1 isTried
  obtain ⟨attempted, isAttempt, isReported⟩ := List.mem_flatMap.1 isMember
  obtain ⟨tried, isApplicable, rfl⟩ := List.mem_map.1 isAttempt
  obtain ⟨concept, isConcept, rfl⟩ := Target.exists_concept_of_reached isReached
  rw [Occurrence.type_of_mem_readMembers isReported concept isConcept]
  exact List.mem_filter.1 isApplicable

theorem type_mem_types_of_triedLater
    (own : OwnConcept catalog target.offset context keyword events)
    (isType : ∀ event ∈ events, ∀ concept ∈ event.concept?, concept.type ∈ catalog.types)
    {type : ConceptType}
    (isTried : type ∈ own.triedLater target) :
    type ∈ catalog.types := by
  obtain ⟨event, isBehind, isReached⟩ := List.mem_filterMap.1 isTried
  obtain ⟨concept, isConcept, rfl⟩ := Target.exists_concept_of_reached isReached
  have isEvent : event ∈ events := by
    rw [own.events_eq]
    simp [isBehind]
  exact isType event isEvent concept isConcept

end OwnConcept

end ConceptScript
