import ConceptScript.Proofs.Script.Boundary

/-!
Contract: where a parse reports its fault.

Whatever fails looks at the next token, or finds none. So the fault of a parse lies at the start of
one of its tokens or at the end, whichever of the attempts at a concept it comes from. A keyword
that is refused is itself the place.

Owns the places that lie ahead of a reader, and that every fault lies at one of them.

Does not own lines and columns.
-/

set_option autoImplicit false

namespace ConceptScript

/-- The fault is about the next token, or the end, at a place that the reader can come to. -/
def Fault.Ahead (reader : Reader) (fault : Fault) : Prop :=
  ∃ place, reader.Reaches place ∧ fault.offset = place.faultOffset

namespace Fault.Ahead

variable {reader later : Reader} {fault : Fault}

theorem here
    (isOffset : fault.offset = reader.faultOffset) :
    fault.Ahead reader :=
  ⟨reader, .refl reader, isOffset⟩

theorem of_reaches
    (reached : reader.Reaches later)
    (ahead : fault.Ahead later) :
    fault.Ahead reader := by
  obtain ⟨place, placeReached, isOffset⟩ := ahead
  exact ⟨place, reached.trans placeReached, isOffset⟩

/-- A place ahead is a token to come or the end. -/
theorem start_or_stop (ahead : fault.Ahead reader) :
    (∃ token ∈ reader.rest, fault.offset = token.start) ∨ fault.offset = reader.stop := by
  obtain ⟨⟨consumed, rest, stop⟩, ⟨taken, isRest, -, isStop⟩, isOffset⟩ := ahead
  cases rest with
  | nil => exact .inr (isOffset.trans isStop)
  | cons token rest =>
    refine .inl ⟨token, ?_, isOffset⟩
    rw [isRest]
    exact List.mem_append_right taken List.mem_cons_self

end Fault.Ahead

namespace Parse

variable {catalog : Catalog} {stack : List Concept} {reader : Reader} {keyword : Token}
  {tail : List Token} {fault : Fault}

theorem ahead_of_readMembers
    {type : ConceptType} {values : List String} {members : List Member}
    (isFault : (readMembers type values members reader).2 = .error fault) :
    fault.Ahead reader := by
  induction members generalizing values reader with
  | nil => cases isFault
  | cons member members inductionHypothesis =>
    have reached := Reader.reaches_readMember reader member.kind
    rw [readMembers] at isFault
    split at isFault
    · next value next isRead =>
      rw [isRead] at reached
      exact .of_reaches reached (inductionHypothesis isFault)
    · next found next isRead =>
      rw [isRead] at reached
      have isOffset := Reader.offset_of_readMember isRead
      obtain rfl := Except.error.inj isFault
      exact ⟨next, reached, isOffset⟩

theorem ahead_of_attempts
    (isReported : fault ∈ faults (attemptsAt catalog stack reader keyword)) :
    fault.Ahead reader := by
  obtain ⟨attempted, isAttempted, isFault⟩ := List.mem_filterMap.1 isReported
  obtain ⟨type, -, rfl⟩ := List.mem_map.1 isAttempted
  cases isRead : (attempt reader type).2 with
  | ok reading =>
    rw [isRead] at isFault
    cases isFault
  | error other =>
    rw [isRead] at isFault
    obtain rfl := Option.some.inj isFault
    exact .of_reaches (Reader.reaches_advance reader) (ahead_of_readMembers isRead)

theorem ahead_of_readConcept
    (isRest : reader.rest = keyword :: tail)
    (isFault : (readConcept catalog stack reader keyword).2 = .error fault) :
    fault.Ahead reader := by
  have atKeyword : reader.faultOffset = keyword.start := by
    rw [Reader.faultOffset, Reader.peek?, isRest]
    rfl
  by_cases isText : keyword.isText = true
  · rw [readConcept_of_isText isText] at isFault
    rcases choose_fault_cases isFault with
      ⟨-, rfl⟩ | isReported | ⟨-, parent, rfl⟩ | ⟨names, rfl⟩
    · exact .here atKeyword.symm
    · exact ahead_of_attempts isReported
    · exact .here atKeyword.symm
    · exact .here atKeyword.symm
  · have isExpected : (readConcept catalog stack reader keyword).2 =
        .error ⟨.keywordExpected keyword.value, keyword.start⟩ := by
      simp [readConcept, isText]
    obtain rfl := Except.error.inj (isFault.symm.trans isExpected)
    exact .here atKeyword.symm

theorem ahead_of_halts
    {state : State} {parse : Parse}
    (halts : Halts catalog state parse)
    (isFault : parse.outcome = .error fault) :
    fault.Ahead state.reader := by
  cases halts with
  | finished => cases isFault
  | unclosed =>
    obtain rfl := Except.error.inj isFault
    exact .here rfl
  | unopened =>
    obtain rfl := Except.error.inj isFault
    exact .here rfl
  | unread isRest _ isRead =>
    obtain rfl := Except.error.inj isFault
    exact ahead_of_readConcept isRest isRead
  | @unended _ _ next _ _ _ isRest isRead _ =>
    obtain rfl := Except.error.inj isFault
    exact ⟨next, (readConcept_shorter isRest isRead).1, rfl⟩

theorem ahead_of_parse
    {tokens : List Token} {stop : Nat}
    (isFault : (catalog.parse tokens stop).outcome = .error fault) :
    fault.Ahead (.ofTokens tokens stop) := by
  obtain ⟨events, concepts, halted, parse, steps, halts⟩ :=
    exists_steps_halts catalog (.initial tokens stop)
  have isParse : catalog.parse tokens stop = parse.after events concepts :=
    parse_eq_after steps halts
  rw [isParse, outcome_after_eq_error_iff] at isFault
  exact .of_reaches steps.reaches (ahead_of_halts halts isFault)

/-- A keyword that is refused is what the fault is about. -/
theorem offset_of_refused
    (isText : keyword.isText = true)
    (isFault : (readConcept catalog stack reader keyword).2 = .error fault)
    (refuses : fault.cause.refusesKeyword = true) :
    fault.offset = keyword.start := by
  rw [readConcept_of_isText isText] at isFault
  rcases choose_fault_cases isFault with
    ⟨-, rfl⟩ | isReported | ⟨-, parent, rfl⟩ | ⟨names, rfl⟩
  · rfl
  · obtain ⟨label, concept, reason, isCause⟩ := cause_of_attempts isReported
    rw [isCause] at refuses
    cases refuses
  · rfl
  · rfl

end Parse

end ConceptScript
