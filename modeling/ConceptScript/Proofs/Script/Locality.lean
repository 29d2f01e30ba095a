import ConceptScript.Proofs.Script.Machine

/-!
Contract: what a parse does depends on the tokens it has come to, and on no later ones.

No member goes past a token that is neither text nor a dot. So a concept that is read up to its
mark is read in the same way whatever follows the mark, and so is one that is refused in front of
such a token.

Owns the extension of readers, events and parses by further tokens, and which reads, steps and
halts are the same after it.

Does not own reads that come to the end of the tokens, beyond where they report it.
-/

set_option autoImplicit false

namespace ConceptScript

/-- A token that no member goes past. -/
def Token.isBarrier (token : Token) : Bool :=
  !token.isText && !token.isSpecial "."

theorem Token.isBarrier_of_isSpecial
    {token : Token} {mark : String}
    (isMark : token.isSpecial mark = true)
    (notDot : mark ≠ ".") :
    token.isBarrier = true := by
  have noDot := Parse.isSpecial_unique isMark notDot
  have noText : token.isText = false := by
    by_cases isText : token.isText = true
    · rw [Parse.isSpecial_eq_false_of_isText isText] at isMark
      cases isMark
    · simpa using isText
  simp [isBarrier, noDot, noText]

/-! ## Further tokens -/

/-- The same place with further tokens at the end. -/
def Reader.extend (tail : List Token) (stop : Nat) (reader : Reader) : Reader :=
  ⟨reader.consumed, reader.rest ++ tail, stop⟩

def Event.extend (tail : List Token) (stop : Nat) : Event → Event
  | .keyword reader word => .keyword (reader.extend tail stop) word
  | .member reader concept declared value =>
    .member (reader.extend tail stop) concept declared value
  | .opened reader stack => .opened (reader.extend tail stop) stack
  | .closed reader stack => .closed (reader.extend tail stop) stack

namespace Parse

def Attempt.extend (tail : List Token) (stop : Nat) (attempt : Attempt) : Attempt :=
  (attempt.1.map (Event.extend tail stop),
    attempt.2.map fun reading => (reading.1, reading.2.extend tail stop))

def State.extend (tail : List Token) (stop : Nat) (state : State) : State :=
  ⟨state.stack, state.reader.extend tail stop⟩

end Parse

def Parse.extend (tail : List Token) (stop : Nat) (parse : Parse) : Parse :=
  ⟨parse.events.map (Event.extend tail stop), parse.outcome⟩

/-- A place with a barrier to come. -/
def Reader.Bounded (reader : Reader) : Prop :=
  ∃ token ∈ reader.rest, token.isBarrier = true

namespace Reader

theorem Bounded.rest_ne_nil
    {reader : Reader}
    (bounded : reader.Bounded) :
    reader.rest ≠ [] := by
  obtain ⟨token, member, _⟩ := bounded
  exact List.ne_nil_of_mem member

theorem peek?_extend
    {reader : Reader}
    (notEnd : reader.rest ≠ [])
    (tail : List Token) (stop : Nat) :
    (reader.extend tail stop).peek? = reader.peek? := by
  obtain ⟨consumed, rest, oldStop⟩ := reader
  cases rest with
  | nil => exact absurd rfl notEnd
  | cons token rest => rfl

theorem faultOffset_extend
    {reader : Reader}
    (notEnd : reader.rest ≠ [])
    (tail : List Token) (stop : Nat) :
    (reader.extend tail stop).faultOffset = reader.faultOffset := by
  obtain ⟨consumed, rest, oldStop⟩ := reader
  cases rest with
  | nil => exact absurd rfl notEnd
  | cons token rest => rfl

theorem Reaches.bounded
    {reader later : Reader}
    (reached : reader.Reaches later)
    (bounded : later.Bounded) :
    reader.Bounded := by
  obtain ⟨token, member, isBarrier⟩ := bounded
  obtain ⟨taken, isRest, _⟩ := reached
  exact ⟨token, by simp [isRest, member], isBarrier⟩

/-! ## Members -/

theorem readText_extend
    {reader : Reader}
    (notEnd : reader.rest ≠ [])
    (tail : List Token) (stop : Nat) :
    (reader.extend tail stop).readText =
      (reader.readText.1, reader.readText.2.extend tail stop) := by
  obtain ⟨consumed, rest, oldStop⟩ := reader
  cases rest with
  | nil => exact absurd rfl notEnd
  | cons token rest =>
    by_cases isText : token.isText = true
    · simp [readText, extend, advance, isText]
    · simp [readText, extend, isText]

theorem readDotted_extend
    {path : String} {consumed rest : List Token} {oldStop : Nat}
    (notEnd : (readDotted path consumed oldStop rest).2.rest ≠ [])
    (tail : List Token) (stop : Nat) :
    readDotted path consumed stop (rest ++ tail) =
      ((readDotted path consumed oldStop rest).1,
        (readDotted path consumed oldStop rest).2.extend tail stop) := by
  fun_induction readDotted path consumed oldStop rest with
  | case1 => exact absurd rfl notEnd
  | case2 => exact absurd rfl notEnd
  | case3 path consumed dot noDot =>
    cases tail <;> simp [readDotted, extend, noDot]
  | case4 path consumed dot part rest isDot isText inductionHypothesis =>
    simpa [readDotted, isDot, isText] using inductionHypothesis notEnd
  | case5 path consumed dot part rest isDot noText =>
    simp [readDotted, extend, isDot, noText]
  | case6 path consumed dot part rest noDot =>
    simp [readDotted, extend, noDot]

/-- A read that leaves a token has not noticed the end. -/
theorem readMember_extend
    {reader : Reader} {kind : Member.Kind}
    (notEnd : (reader.readMember kind).2.rest ≠ [])
    (tail : List Token) (stop : Nat) :
    (reader.extend tail stop).readMember kind =
      ((reader.readMember kind).1, (reader.readMember kind).2.extend tail stop) := by
  have begun : reader.rest ≠ [] := by
    obtain ⟨taken, isRest, _⟩ := reaches_readMember reader kind
    rw [isRest]
    exact List.append_ne_nil_of_right_ne_nil _ notEnd
  have textRead := readText_extend begun tail stop
  cases kind with
  | text => exact textRead
  | reference =>
    simp only [readMember, readReference] at notEnd ⊢
    rw [textRead]
    cases isRead : reader.readText with
    | mk value next =>
      rw [isRead] at notEnd
      cases value with
      | error fault => rfl
      | ok path =>
        exact readDotted_extend notEnd tail stop

theorem offset_of_readText
    {reader next : Reader} {fault : Fault}
    (failed : reader.readText = (.error fault, next)) :
    fault.offset = next.faultOffset := by
  obtain ⟨consumed, rest, stop⟩ := reader
  cases rest with
  | nil =>
    obtain ⟨⟨⟩, rfl⟩ := Prod.mk.inj failed
    rfl
  | cons token rest =>
    by_cases isText : token.isText = true
    · simp [readText, isText] at failed
    · simp only [readText, isText] at failed
      obtain ⟨⟨⟩, rfl⟩ := Prod.mk.inj failed
      rfl

theorem offset_of_readDotted
    {path : String} {consumed rest : List Token} {stop : Nat} {next : Reader} {fault : Fault}
    (failed : readDotted path consumed stop rest = (.error fault, next)) :
    fault.offset = next.faultOffset := by
  fun_induction readDotted path consumed stop rest with
  | case1 => cases failed
  | case2 =>
    obtain ⟨⟨⟩, rfl⟩ := Prod.mk.inj failed
    rfl
  | case3 => cases failed
  | case4 path consumed dot part rest _ _ inductionHypothesis => exact inductionHypothesis failed
  | case5 =>
    obtain ⟨⟨⟩, rfl⟩ := Prod.mk.inj failed
    rfl
  | case6 => cases failed

/-- A read that fails reports the token it has stopped at, or the end. -/
theorem offset_of_readMember
    {reader next : Reader} {kind : Member.Kind} {fault : Fault}
    (failed : reader.readMember kind = (.error fault, next)) :
    fault.offset = next.faultOffset := by
  cases kind with
  | text => exact offset_of_readText failed
  | reference =>
    simp only [readMember, readReference] at failed
    split at failed
    · exact offset_of_readDotted failed
    · next textFault between isRead =>
      obtain ⟨⟨⟩, rfl⟩ := Prod.mk.inj failed
      exact offset_of_readText isRead

theorem faultOffset_of_rest_nil
    {reader : Reader}
    (atEnd : reader.rest = []) :
    reader.faultOffset = reader.stop := by
  rw [faultOffset, peek?, atEnd]
  rfl

theorem Bounded.pass
    {consumed rest : List Token} {stop : Nat} {token : Token}
    (bounded : Bounded ⟨consumed, token :: rest, stop⟩)
    (notBarrier : token.isBarrier = false) (nextConsumed : List Token) :
    Bounded ⟨nextConsumed, rest, stop⟩ := by
  simpa [Bounded, notBarrier] using bounded

theorem Bounded.readText
    {reader : Reader}
    (bounded : reader.Bounded) :
    reader.readText.2.Bounded := by
  obtain ⟨consumed, rest, stop⟩ := reader
  cases rest with
  | nil => exact bounded
  | cons token rest =>
    by_cases isText : token.isText = true
    · have notBarrier : token.isBarrier = false := by simp [Token.isBarrier, isText]
      simp only [Reader.readText, isText, ↓reduceIte]
      exact bounded.pass notBarrier _
    · simpa [Reader.readText, isText] using bounded

theorem bounded_readDotted
    {path : String} {consumed rest : List Token} {stop : Nat}
    (bounded : Bounded ⟨consumed, rest, stop⟩) :
    (readDotted path consumed stop rest).2.Bounded := by
  fun_induction readDotted path consumed stop rest with
  | case1 => exact bounded
  | case2 path consumed dot isDot =>
    have notBarrier : dot.isBarrier = false := by simp [Token.isBarrier, isDot]
    exact bounded.pass notBarrier _
  | case3 => exact bounded
  | case4 path consumed dot part rest isDot isText inductionHypothesis =>
    have dotPassed : dot.isBarrier = false := by simp [Token.isBarrier, isDot]
    have partPassed : part.isBarrier = false := by simp [Token.isBarrier, isText]
    exact inductionHypothesis ((bounded.pass dotPassed (dot :: consumed)).pass partPassed _)
  | case5 path consumed dot part rest isDot =>
    have notBarrier : dot.isBarrier = false := by simp [Token.isBarrier, isDot]
    exact bounded.pass notBarrier _
  | case6 => exact bounded

theorem readMember_of_rest_nil
    {reader : Reader}
    (atEnd : reader.rest = []) (kind : Member.Kind) :
    reader.readMember kind = (.error ⟨.textExpectedAtEnd, reader.stop⟩, reader) := by
  obtain ⟨consumed, rest, stop⟩ := reader
  obtain rfl : rest = [] := atEnd
  cases kind <;> rfl

/-- No member goes past a barrier. -/
theorem Bounded.readMember
    {reader : Reader}
    (bounded : reader.Bounded) (kind : Member.Kind) :
    (reader.readMember kind).2.Bounded := by
  have textBounded := bounded.readText
  cases kind with
  | text => exact textBounded
  | reference =>
    simp only [Reader.readMember, readReference]
    split
    · next path next isRead =>
      rw [isRead] at textBounded
      exact bounded_readDotted textBounded
    · next fault next isRead =>
      rw [isRead] at textBounded
      exact textBounded

end Reader

namespace Parse

/-! ## Attempts -/

theorem readMembers_extend
    {type : ConceptType} {values : List String} {members : List Member} {reader : Reader}
    (bounded : reader.Bounded)
    (tail : List Token) (stop : Nat) :
    readMembers type values members (reader.extend tail stop) =
      Attempt.extend tail stop (readMembers type values members reader) := by
  induction members generalizing values reader with
  | nil => rfl
  | cons member members inductionHypothesis =>
    have memberBounded := bounded.readMember member.kind
    have isExtended := Reader.readMember_extend memberBounded.rest_ne_nil tail stop
    rw [readMembers, readMembers, isExtended]
    cases isRead : reader.readMember member.kind with
    | mk value next =>
      rw [isRead] at memberBounded
      cases value with
      | error fault => rfl
      | ok value =>
        simp only [inductionHypothesis memberBounded]
        rfl

theorem bounded_of_readMembers
    {type : ConceptType} {values : List String} {members : List Member} {reader next : Reader}
    {concept : Concept}
    (bounded : reader.Bounded)
    (isRead : (readMembers type values members reader).2 = .ok (concept, next)) :
    next.Bounded := by
  induction members generalizing values reader with
  | nil =>
    obtain ⟨_, rfl⟩ := Prod.mk.inj (Except.ok.inj isRead)
    exact bounded
  | cons member members inductionHypothesis =>
    have memberBounded := bounded.readMember member.kind
    rw [readMembers] at isRead
    split at isRead
    · next value between memberRead =>
      rw [memberRead] at memberBounded
      exact inductionHypothesis memberBounded isRead
    · cases isRead

/-- Without a barrier to come, members are read as if more tokens followed, or up to the end, or
they fail and report the end. -/
theorem readMembers_at_end
    (type : ConceptType) (values : List String) (members : List Member) (reader : Reader) :
    (∀ tail stop, readMembers type values members (reader.extend tail stop) =
        Attempt.extend tail stop (readMembers type values members reader)) ∨
      (∃ concept next, (readMembers type values members reader).2 = .ok (concept, next) ∧
        next.rest = []) ∨
      ∃ fault, (readMembers type values members reader).2 = .error fault ∧
        fault.offset = reader.stop := by
  induction members generalizing values reader with
  | nil => exact .inl fun tail stop => rfl
  | cons member members inductionHypothesis =>
    have reached := Reader.reaches_readMember reader member.kind
    by_cases atEnd : (reader.readMember member.kind).2.rest = []
    · generalize isRead : reader.readMember member.kind = result at reached atEnd
      obtain ⟨value, next⟩ := result
      obtain ⟨_, _, _, sameStop⟩ := reached
      cases value with
      | error fault =>
        have offsetAtEnd : fault.offset = reader.stop := by
          rw [Reader.offset_of_readMember isRead, Reader.faultOffset_of_rest_nil atEnd, sameStop]
        rw [readMembers, isRead]
        exact .inr (.inr ⟨_, rfl, offsetAtEnd⟩)
      | ok value =>
        rw [readMembers, isRead]
        cases members with
        | nil => exact .inr (.inl ⟨_, next, rfl, atEnd⟩)
        | cons another members =>
          simp only [readMembers, Reader.readMember_of_rest_nil atEnd]
          exact .inr (.inr ⟨_, rfl, sameStop⟩)
    · have isExtended := Reader.readMember_extend atEnd
      generalize isRead : reader.readMember member.kind = result at reached isExtended
      obtain ⟨value, next⟩ := result
      obtain ⟨_, _, _, sameStop⟩ := reached
      cases value with
      | error fault =>
        refine .inl fun tail stop => ?_
        rw [readMembers, readMembers, isExtended, isRead]
        rfl
      | ok value =>
        rcases inductionHypothesis (values ++ [value]) next with same | ended | failed
        · refine .inl fun tail stop => ?_
          rw [readMembers, readMembers, isExtended, isRead]
          simp only [same]
          rfl
        · rw [readMembers, isRead]
          exact .inr (.inl ended)
        · rw [readMembers, isRead, ← sameStop]
          exact .inr (.inr failed)

/-! ## The choice between attempts -/

theorem readings_extend (tail : List Token) (stop : Nat) (attempts : List Attempt) :
    readings (attempts.map (Attempt.extend tail stop)) =
      (readings attempts).map fun reading => (reading.1, reading.2.extend tail stop) := by
  unfold readings
  rw [List.filterMap_map, List.map_filterMap]
  congr 1
  funext attempt
  cases isRead : attempt.2 <;> simp [Attempt.extend, isRead, Except.map, Except.toOption]

theorem faults_extend (tail : List Token) (stop : Nat) (attempts : List Attempt) :
    faults (attempts.map (Attempt.extend tail stop)) = faults attempts := by
  unfold faults
  rw [List.filterMap_map]
  congr 1
  funext attempt
  cases isRead : attempt.2 <;> simp [Attempt.extend, isRead, Except.map]

theorem longest_extend (tail : List Token) (stop : Nat) (found : List (Concept × Reader)) :
    longest (found.map fun reading => (reading.1, reading.2.extend tail stop)) =
      (longest found).map fun reading => (reading.1, reading.2.extend tail stop) := by
  unfold longest
  rw [List.filter_map]
  congr 1
  apply List.filter_congr
  intro reading _
  simp only [Function.comp_apply, List.all_map]
  rfl

theorem choose_extend
    (catalog : Catalog) (stack : List Concept) (keyword : Token) (attempts : List Attempt)
    (tail : List Token) (stop : Nat) :
    choose catalog stack keyword (attempts.map (Attempt.extend tail stop)) =
      (choose catalog stack keyword attempts).map
        fun reading => (reading.1, reading.2.extend tail stop) := by
  unfold choose
  rw [readings_extend, longest_extend, faults_extend]
  match longest (readings attempts) with
  | [] =>
    simp only [List.map_nil]
    split
    · rfl
    · split <;> rfl
  | [reading] => rfl
  | first :: second :: more => simp [Except.map]

theorem readConcept_extend
    (catalog : Catalog) (stack : List Concept) {reader : Reader} {keyword : Token}
    {behind : List Token}
    (isRest : reader.rest = keyword :: behind)
    (bounded : reader.Bounded)
    (tail : List Token) (stop : Nat) :
    readConcept catalog stack (reader.extend tail stop) keyword =
      Attempt.extend tail stop (readConcept catalog stack reader keyword) := by
  by_cases isText : keyword.isText = true
  · have notBarrier : keyword.isBarrier = false := by simp [Token.isBarrier, isText]
    have advanced : (reader.extend tail stop).advance = reader.advance.extend tail stop := by
      simp [Reader.advance, Reader.extend, isRest]
    have begunBounded : reader.advance.Bounded := by
      obtain ⟨consumed, rest, oldStop⟩ := reader
      obtain rfl : rest = keyword :: behind := isRest
      exact bounded.pass notBarrier _
    have attempted : ∀ type, attempt (reader.extend tail stop) type =
        Attempt.extend tail stop (attempt reader type) := by
      intro type
      unfold attempt
      rw [advanced]
      exact readMembers_extend begunBounded tail stop
    have allAttempted : attempt (reader.extend tail stop) =
        Attempt.extend tail stop ∘ attempt reader := funext attempted
    simp only [readConcept, isText, ↓reduceIte, allAttempted, ← List.map_map, choose_extend]
    simp [Attempt.extend, Event.extend, List.map_flatMap, List.flatMap_map]
  · simp [readConcept, isText, Attempt.extend, Event.extend, Except.map]

theorem bounded_of_readConcept
    {catalog : Catalog} {stack : List Concept} {reader next : Reader} {keyword : Token}
    {behind : List Token} {concept : Concept}
    (isRest : reader.rest = keyword :: behind)
    (bounded : reader.Bounded)
    (isRead : (readConcept catalog stack reader keyword).2 = .ok (concept, next)) :
    next.Bounded := by
  have notBarrier : keyword.isBarrier = false := by
    simp [Token.isBarrier, isText_of_readConcept isRead]
  simp only [readConcept, isText_of_readConcept isRead, ↓reduceIte] at isRead
  obtain ⟨found, attempted, isFound⟩ := mem_of_choose isRead
  obtain ⟨type, _, rfl⟩ := List.mem_map.1 attempted
  refine bounded_of_readMembers ?_ isFound
  obtain ⟨consumed, rest, stop⟩ := reader
  obtain rfl : rest = keyword :: behind := isRest
  exact bounded.pass notBarrier _

/-- A concept with a barrier directly behind it is read in the same way whatever follows that. -/
theorem readConcept_extend_of_barrier
    {catalog : Catalog} {stack : List Concept} {reader : Reader} {keyword mark : Token}
    {behindKeyword consumed behind : List Token} {oldStop : Nat} {concept : Concept}
    (isRest : reader.rest = keyword :: behindKeyword)
    (isRead : (readConcept catalog stack reader keyword).2 =
      .ok (concept, ⟨consumed, mark :: behind, oldStop⟩))
    (isBarrier : mark.isBarrier = true)
    (tail : List Token) (stop : Nat) :
    (reader.extend tail stop).rest = keyword :: (behindKeyword ++ tail) ∧
      (readConcept catalog stack (reader.extend tail stop) keyword).1 =
        (readConcept catalog stack reader keyword).1.map (Event.extend tail stop) ∧
      (readConcept catalog stack (reader.extend tail stop) keyword).2 =
        .ok (concept, ⟨consumed, mark :: (behind ++ tail), stop⟩) := by
  have nextBounded : Reader.Bounded ⟨consumed, mark :: behind, oldStop⟩ :=
    ⟨mark, by simp, isBarrier⟩
  have bounded := (readConcept_shorter isRest isRead).1.bounded nextBounded
  refine ⟨by simp [Reader.extend, isRest], ?_, ?_⟩
  · rw [readConcept_extend catalog stack isRest bounded]
    rfl
  · rw [readConcept_extend catalog stack isRest bounded]
    simp [Attempt.extend, isRead, Except.map, Reader.extend]

/-! ## Steps and halts -/

/-- A step has seen nothing behind the mark it goes past. -/
theorem Step.extend
    {catalog : Catalog} {state later : State} {events : List Event} {concepts : List Concept}
    (step : Step catalog state events concepts later)
    (tail : List Token) (stop : Nat) :
    Step catalog (state.extend tail stop) (events.map (Event.extend tail stop)) concepts
      (later.extend tail stop) := by
  cases step with
  | closes isBrace => exact .closes isBrace
  | ends isRest isRead isMark =>
    have isBarrier := Token.isBarrier_of_isSpecial isMark (by decide)
    obtain ⟨extendedRest, extendedEvents, extendedRead⟩ :=
      readConcept_extend_of_barrier isRest isRead isBarrier tail stop
    have step := Step.ends extendedRest extendedRead isMark
    rw [extendedEvents] at step
    simpa [Event.extend, State.extend, Reader.extend] using step
  | opens isRest isRead isMark =>
    have isBarrier := Token.isBarrier_of_isSpecial isMark (by decide)
    obtain ⟨extendedRest, extendedEvents, extendedRead⟩ :=
      readConcept_extend_of_barrier isRest isRead isBarrier tail stop
    have step := Step.opens extendedRest extendedRead isMark
    rw [extendedEvents] at step
    simpa [Event.extend, State.extend, Reader.extend] using step

theorem Steps.extend
    {catalog : Catalog} {state later : State} {events : List Event} {concepts : List Concept}
    (steps : Steps catalog state events concepts later)
    (tail : List Token) (stop : Nat) :
    Steps catalog (state.extend tail stop) (events.map (Event.extend tail stop)) concepts
      (later.extend tail stop) := by
  induction steps with
  | refl => exact .refl _
  | head step _ inductionHypothesis =>
    rw [List.map_append]
    exact .head (step.extend tail stop) inductionHypothesis

/-- A halt in front of a barrier stays one. -/
theorem Halts.extend
    {catalog : Catalog} {state : State} {parse : Parse}
    (halts : Halts catalog state parse)
    (bounded : state.reader.Bounded)
    (tail : List Token) (stop : Nat) :
    Halts catalog (state.extend tail stop) (parse.extend tail stop) := by
  cases halts with
  | finished => exact absurd rfl bounded.rest_ne_nil
  | unclosed => exact absurd rfl bounded.rest_ne_nil
  | unopened isBrace => exact .unopened isBrace
  | @unread stack reader keyword behind fault isRest atConcept isFault =>
    have extended := readConcept_extend catalog stack isRest bounded tail stop
    have extendedRest : (reader.extend tail stop).rest = keyword :: (behind ++ tail) := by
      simp [Reader.extend, isRest]
    have extendedFault : (readConcept catalog stack (reader.extend tail stop) keyword).2 =
        .error fault := by
      simp [extended, Attempt.extend, isFault, Except.map]
    have halt := Halts.unread extendedRest atConcept extendedFault
    rw [extended] at halt
    exact halt
  | @unended stack reader next keyword behind concept isRest isRead noMark =>
    have extended := readConcept_extend catalog stack isRest bounded tail stop
    have extendedRest : (reader.extend tail stop).rest = keyword :: (behind ++ tail) := by
      simp [Reader.extend, isRest]
    have extendedRead : (readConcept catalog stack (reader.extend tail stop) keyword).2 =
        .ok (concept, next.extend tail stop) := by
      simp [extended, Attempt.extend, isRead, Except.map]
    have nextBounded := bounded_of_readConcept isRest bounded isRead
    have halt := Halts.unended extendedRest extendedRead
      (by rwa [Reader.peek?_extend nextBounded.rest_ne_nil])
    rw [extended, Reader.faultOffset_extend nextBounded.rest_ne_nil] at halt
    exact halt

/-! ## Tokens that end in a barrier -/

theorem Step.reaches
    {catalog : Catalog} {state later : State} {events : List Event} {concepts : List Concept}
    (step : Step catalog state events concepts later) :
    state.reader.Reaches later.reader := by
  cases step with
  | @closes innermost outer last brace => exact ⟨[brace], by simp⟩
  | @ends stack reader keyword mark tail concept consumed behind stop isRest isRead =>
    exact (readConcept_shorter isRest isRead).1.trans ⟨[mark], by simp⟩
  | @opens stack reader keyword mark tail concept consumed behind stop isRest isRead =>
    exact (readConcept_shorter isRest isRead).1.trans ⟨[mark], by simp⟩

theorem Steps.reaches
    {catalog : Catalog} {state later : State} {events : List Event} {concepts : List Concept}
    (steps : Steps catalog state events concepts later) :
    state.reader.Reaches later.reader := by
  induction steps with
  | refl => exact .refl _
  | head step _ inductionHypothesis => exact step.reaches.trans inductionHypothesis

/-- The tokens up to the last barrier. -/
def ended (tokens : List Token) : List Token :=
  (tokens.reverse.dropWhile fun token => !token.isBarrier).reverse

/-- The tokens behind the last barrier, which are those of a concept without its mark. -/
def begun (tokens : List Token) : List Token :=
  (tokens.reverse.takeWhile fun token => !token.isBarrier).reverse

theorem ended_append_begun (tokens : List Token) : ended tokens ++ begun tokens = tokens := by
  unfold ended begun
  rw [← List.reverse_append, List.takeWhile_append_dropWhile, List.reverse_reverse]

theorem isBarrier_of_last_ended (tokens : List Token) :
    ∀ last ∈ (ended tokens).getLast?, last.isBarrier = true := by
  intro last isLast
  rw [ended, List.getLast?_reverse] at isLast
  have notTaken := List.head?_dropWhile_not (fun token => !token.isBarrier) tokens.reverse
  rw [Option.mem_def.1 isLast] at notTaken
  simpa using notTaken

theorem isBarrier_of_begun
    {tokens : List Token} {token : Token}
    (member : token ∈ begun tokens) :
    token.isBarrier = false := by
  rw [begun, List.mem_reverse] at member
  have isTaken := List.all_eq_true.1 List.all_takeWhile token member
  simpa using isTaken

/-- Up to a barrier at their end, tokens are either all gone past, or halted at in a way that no
further token changes. -/
theorem exists_steps_of_barrier
    (catalog : Catalog) (stack : List Concept) (consumed : List Token) (stop : Nat)
    {tokens : List Token}
    (isEnd : ∀ last ∈ tokens.getLast?, last.isBarrier = true) :
    (∃ events concepts opened,
        Steps catalog ⟨stack, ⟨consumed, tokens, stop⟩⟩ events concepts
          ⟨opened, ⟨tokens.reverse ++ consumed, [], stop⟩⟩) ∨
      ∃ events concepts halted parse,
        Steps catalog ⟨stack, ⟨consumed, tokens, stop⟩⟩ events concepts halted ∧
          Halts catalog halted parse ∧ halted.reader.Bounded := by
  obtain ⟨events, concepts, ⟨opened, ⟨later, rest, laterStop⟩⟩, parse, steps, halts⟩ :=
    exists_steps_halts catalog ⟨stack, ⟨consumed, tokens, stop⟩⟩
  obtain ⟨taken, isTaken, isLater, isStop⟩ := steps.reaches
  simp only at isTaken isLater isStop
  cases rest with
  | nil =>
    refine .inl ⟨events, concepts, opened, ?_⟩
    rw [List.append_nil] at isTaken
    rwa [isLater, isStop, ← isTaken] at steps
  | cons token behind =>
    refine .inr ⟨events, concepts, _, parse, steps, halts, ?_⟩
    have isLast := List.getLast?_eq_some_getLast (List.cons_ne_nil token behind)
    refine ⟨_, List.getLast_mem (List.cons_ne_nil token behind), isEnd _ ?_⟩
    rw [isTaken, List.getLast?_append, isLast]
    rfl

theorem initial_extend (front back : List Token) (frontStop stop : Nat) :
    (State.initial front frontStop).extend back stop = State.initial (front ++ back) stop :=
  rfl

/-- Two parses of the same first tokens have their steps up to the last common barrier in common,
or halt in the same way in front of it. -/
theorem parse_append_cases
    (catalog : Catalog) (front back : List Token) (frontStop stop : Nat) :
    (∃ events concepts opened,
        Steps catalog (State.initial (ended front) frontStop) events concepts
          ⟨opened, ⟨(ended front).reverse, [], frontStop⟩⟩ ∧
        catalog.parse front frontStop =
          (State.parse catalog ⟨opened, ⟨(ended front).reverse, begun front, frontStop⟩⟩).after
            (events.map (Event.extend (begun front) frontStop)) concepts ∧
        catalog.parse (front ++ back) stop =
          (State.parse catalog ⟨opened, ⟨(ended front).reverse, begun front ++ back, stop⟩⟩).after
            (events.map (Event.extend (begun front ++ back) stop)) concepts) ∨
      ∃ events concepts halted parse,
        Steps catalog (State.initial (ended front) frontStop) events concepts halted ∧
        Halts catalog halted parse ∧ halted.reader.Bounded ∧
        catalog.parse front frontStop =
          (parse.extend (begun front) frontStop).after
            (events.map (Event.extend (begun front) frontStop)) concepts ∧
        catalog.parse (front ++ back) stop =
          (parse.extend (begun front ++ back) stop).after
            (events.map (Event.extend (begun front ++ back) stop)) concepts := by
  have isFront := ended_append_begun front
  have frontInitial : catalog.parse front frontStop =
      ((State.initial (ended front) frontStop).extend (begun front) frontStop).parse catalog := by
    rw [initial_extend, isFront, parse_initial]
  have wholeInitial : catalog.parse (front ++ back) stop =
      ((State.initial (ended front) frontStop).extend (begun front ++ back) stop).parse catalog := by
    rw [initial_extend, ← List.append_assoc, isFront, parse_initial]
  rw [frontInitial, wholeInitial]
  rcases exists_steps_of_barrier catalog [] [] frontStop (isBarrier_of_last_ended front) with
    ⟨events, concepts, opened, steps⟩ | ⟨events, concepts, halted, parse, steps, halts, bounded⟩
  · rw [List.append_nil] at steps
    exact .inl ⟨events, concepts, opened, steps,
      parse_of_steps (steps.extend (begun front) frontStop),
      parse_of_steps (steps.extend (begun front ++ back) stop)⟩
  · exact .inr ⟨events, concepts, halted, parse, steps, halts, bounded,
      parse_eq_after (steps.extend (begun front) frontStop)
        (halts.extend bounded (begun front) frontStop),
      parse_eq_after (steps.extend (begun front ++ back) stop)
        (halts.extend bounded (begun front ++ back) stop)⟩

end Parse

end ConceptScript
