import ConceptScript.Proofs.Script.Agreement

/-!
Contract: the order of the types in a catalog does not matter to the parser.

The types of a keyword are tried one after the other. Their order decides in which order members are
reported, which of several faults is reported at one offset, and how an ambiguity is worded. It
decides neither what is read nor where a fault lies.

Owns parses under catalogs with the same types: step by step they go through the same states, report
the same keywords and blocks, and end in agreement.

Does not own what is concluded from the events.
-/

set_option autoImplicit false

namespace ConceptScript

/-! ## What is reported apart from members -/

instance : DecidablePred Event.IsMember
  | .member _ _ _ _ => .isTrue trivial
  | .keyword _ _ | .opened _ _ | .closed _ _ => .isFalse not_false

namespace Parse

/-- The keywords and blocks among what is reported. -/
def outline (events : List Event) : List Event :=
  events.filter fun event => ¬ event.IsMember

theorem outline_append (front back : List Event) :
    outline (front ++ back) = outline front ++ outline back :=
  List.filter_append ..

theorem outline_readConcept
    (catalog : Catalog) (stack : List Concept) (reader : Reader) (keyword : Token) :
    outline (readConcept catalog stack reader keyword).1 = [.keyword reader (word keyword)] := by
  obtain ⟨members, isEvents, allMembers⟩ :=
    exists_readConcept_events catalog stack reader keyword
  have noOutline : outline members = [] := by
    apply List.filter_eq_nil_iff.2
    intro event isEvent
    simpa using allMembers event isEvent
  rw [isEvents, ← List.singleton_append, outline_append, noOutline]
  rfl

/-! ## The choice between reordered attempts -/

theorem SameChoice.of_perm
    {α : Type} {found others : List α}
    (isPerm : found.Perm others) :
    SameChoice Eq found others := by
  match found, others with
  | [], others =>
    rw [List.nil_perm.1 isPerm]
    exact .none
  | [value], others =>
    rw [← List.singleton_perm.1 isPerm]
    exact .single rfl
  | _ :: _ :: _, [] => cases isPerm.length_eq
  | _ :: _ :: _, [_] => cases isPerm.length_eq
  | _ :: _ :: _, _ :: _ :: _ => exact .several

theorem longest_perm
    {found others : List (Concept × Reader)}
    (isPerm : found.Perm others) :
    (longest found).Perm (longest others) := by
  have sameTest : ∀ reading : Concept × Reader,
      (found.all fun other => other.2.position ≤ reading.2.position) =
        others.all fun other => other.2.position ≤ reading.2.position := by
    intro reading
    rw [Bool.eq_iff_iff, List.all_eq_true, List.all_eq_true]
    simp only [isPerm.mem_iff]
  unfold longest
  simp only [sameTest]
  exact isPerm.filter _

variable {left right : Catalog}

theorem attemptsAt_perm
    (isPerm : left.types.Perm right.types)
    (stack : List Concept) (reader : Reader) (keyword : Token) :
    (attemptsAt left stack reader keyword).Perm (attemptsAt right stack reader keyword) :=
  ((isPerm.filter _).filter _).map _

/-- A concept is read in the same way, or refused at the same offset. -/
theorem readConcept_reordered
    (isPerm : left.types.Perm right.types)
    (stack : List Concept) (reader : Reader) (keyword : Token) :
    Agrees Eq Eq (readConcept left stack reader keyword).2
      (readConcept right stack reader keyword).2 := by
  by_cases isText : keyword.isText = true
  · have attemptsPerm := attemptsAt_perm isPerm stack reader keyword
    rw [readConcept_of_isText isText, readConcept_of_isText isText]
    apply choose_agrees rfl
    · exact (isPerm.filter _).isEmpty_eq
    · exact .of_perm (longest_perm (attemptsPerm.filterMap _))
    · have faultsPerm : (faults (attemptsAt left stack reader keyword)).Perm
          (faults (attemptsAt right stack reader keyword)) := attemptsPerm.filterMap _
      apply furthest_agrees
      · intro first second third fourth isFirst isThird isBefore
        omega
      · intro fault isFault
        exact ⟨fault, faultsPerm.mem_iff.1 isFault, rfl⟩
      · intro fault isFault
        exact ⟨fault, faultsPerm.mem_iff.2 isFault, rfl⟩
  · simp only [readConcept, isText]
    exact .error rfl

/-! ## Steps and halts -/

/-- A step is one under the other catalog, and reports the same apart from members. -/
theorem Step.reordered
    {state later : State} {events : List Event} {concepts : List Concept}
    (isPerm : left.types.Perm right.types)
    (step : Step left state events concepts later) :
    ∃ others, Step right state others concepts later ∧ outline others = outline events := by
  cases step with
  | closes isBrace => exact ⟨_, .closes isBrace, rfl⟩
  | @ends stack reader keyword mark tail concept consumed behind stop isRest isRead isMark =>
    have agrees := readConcept_reordered isPerm stack reader keyword
    rw [isRead] at agrees
    refine ⟨_, .ends isRest agrees.eq_ok isMark, ?_⟩
    rw [outline_append, outline_append, outline_readConcept, outline_readConcept]
  | @opens stack reader keyword mark tail concept consumed behind stop isRest isRead isMark =>
    have agrees := readConcept_reordered isPerm stack reader keyword
    rw [isRead] at agrees
    refine ⟨_, .opens isRest agrees.eq_ok isMark, ?_⟩
    rw [outline_append, outline_append, outline_readConcept, outline_readConcept]

theorem Steps.reordered
    {state later : State} {events : List Event} {concepts : List Concept}
    (isPerm : left.types.Perm right.types)
    (steps : Steps left state events concepts later) :
    ∃ others, Steps right state others concepts later ∧ outline others = outline events := by
  induction steps with
  | refl => exact ⟨[], .refl _, rfl⟩
  | head step _ inductionHypothesis =>
    obtain ⟨first, firstStep, firstOutline⟩ := step.reordered isPerm
    obtain ⟨later, laterSteps, laterOutline⟩ := inductionHypothesis
    refine ⟨first ++ later, .head firstStep laterSteps, ?_⟩
    rw [outline_append, outline_append, firstOutline, laterOutline]

/-- A halt is one under the other catalog, in agreement. -/
theorem Halts.reordered
    {state : State} {parse : Parse}
    (isPerm : left.types.Perm right.types)
    (halts : Halts left state parse) :
    ∃ other, Halts right state other ∧ Agrees Eq Eq parse.outcome other.outcome ∧
      outline other.events = outline parse.events := by
  cases halts with
  | finished => exact ⟨_, .finished, .ok rfl, rfl⟩
  | unclosed => exact ⟨_, .unclosed, .error rfl, rfl⟩
  | unopened isBrace => exact ⟨_, .unopened isBrace, .error rfl, rfl⟩
  | @unread stack reader keyword tail fault isRest atConcept isFault =>
    have agrees := readConcept_reordered isPerm stack reader keyword
    rw [isFault] at agrees
    obtain ⟨other, isOther, sameOffset⟩ := agrees.exists_error
    refine ⟨_, .unread isRest atConcept isOther, .error sameOffset, ?_⟩
    rw [outline_readConcept, outline_readConcept]
  | @unended stack reader next keyword tail concept isRest isRead noMark =>
    have agrees := readConcept_reordered isPerm stack reader keyword
    rw [isRead] at agrees
    refine ⟨_, .unended isRest agrees.eq_ok noMark, .error rfl, ?_⟩
    rw [outline_readConcept, outline_readConcept]

/-- Catalogs with the same types parse in agreement, and report the same apart from members. -/
theorem parse_reordered
    (isPerm : left.types.Perm right.types) (tokens : List Token) (stop : Nat) :
    Agrees Eq Eq (left.parse tokens stop).outcome (right.parse tokens stop).outcome ∧
      outline (right.parse tokens stop).events = outline (left.parse tokens stop).events := by
  obtain ⟨events, concepts, halted, parse, steps, halts⟩ :=
    exists_steps_halts left (State.initial tokens stop)
  obtain ⟨others, otherSteps, sameOutline⟩ := steps.reordered isPerm
  obtain ⟨other, otherHalts, agrees, sameEnd⟩ := halts.reordered isPerm
  rw [← parse_initial, ← parse_initial, parse_eq_after steps halts,
    parse_eq_after otherSteps otherHalts]
  refine ⟨agrees.map _, ?_⟩
  simp only [Parse.after, outline_append, sameOutline, sameEnd]

end Parse

end ConceptScript
