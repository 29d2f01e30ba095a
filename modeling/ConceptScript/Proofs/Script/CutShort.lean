import ConceptScript.Proofs.Script.Locality
import ConceptScript.Proofs.Script.Reading

/-!
Contract: the parse of the first tokens of a script that can be read.

Up to the last barrier the first tokens are parsed as they are in the script. Behind it stand the
tokens of a concept that is not ended yet. Where some members are still missing, that is a fault at
the end of the tokens. A fault in front of the end is reported exactly where the tokens can be read
as a concept already, but not as a single one that takes them all.

Owns the concepts that are open at the end of a parse, and which first tokens are misread.

Does not own the text that tokens come from.
-/

set_option autoImplicit false

namespace ConceptScript

open Grammar

/-! ## Open concepts -/

/-- The concepts that are open behind an event, given those in front of it. -/
def Event.openBehind (stack : List Concept) : Event → List Concept
  | .opened _ nested => nested
  | .closed _ nested => nested
  | .keyword _ _ => stack
  | .member _ _ _ _ => stack

namespace Parse

def openBehind (stack : List Concept) (events : List Event) : List Concept :=
  events.foldl Event.openBehind stack

/-- The concepts whose blocks are open where a parse ends, innermost first. -/
def openAtEnd (parse : Parse) : List Concept :=
  openBehind [] parse.events

theorem openBehind_append (stack : List Concept) (front back : List Event) :
    openBehind stack (front ++ back) = openBehind (openBehind stack front) back :=
  List.foldl_append

theorem openBehind_extend
    (stack : List Concept) (events : List Event) (tail : List Token) (stop : Nat) :
    openBehind stack (events.map (Event.extend tail stop)) = openBehind stack events := by
  unfold openBehind
  rw [List.foldl_map]
  congr 1
  funext opened event
  cases event <;> rfl

theorem openBehind_members
    {events : List Event}
    (allMembers : ∀ event ∈ events, event.IsMember)
    (stack : List Concept) :
    openBehind stack events = stack := by
  induction events with
  | nil => rfl
  | cons event events inductionHypothesis =>
    rw [List.forall_mem_cons] at allMembers
    obtain ⟨reader, concept, declared, value, rfl⟩ := allMembers.1.exists_eq
    exact inductionHypothesis allMembers.2

theorem openBehind_readConcept
    (catalog : Catalog) (stack : List Concept) (reader : Reader) (keyword : Token)
    (opened : List Concept) :
    openBehind opened (readConcept catalog stack reader keyword).1 = opened := by
  obtain ⟨members, isEvents, allMembers⟩ :=
    exists_readConcept_events catalog stack reader keyword
  rw [isEvents]
  exact openBehind_members allMembers opened

theorem openBehind_step
    {catalog : Catalog} {state later : State} {events : List Event} {concepts : List Concept}
    (step : Step catalog state events concepts later) :
    openBehind state.stack events = later.stack := by
  cases step with
  | closes isBrace => rfl
  | ends isRest isRead isMark => rw [openBehind_append, openBehind_readConcept]; rfl
  | opens isRest isRead isMark => rw [openBehind_append, openBehind_readConcept]; rfl

theorem openBehind_steps
    {catalog : Catalog} {state later : State} {events : List Event} {concepts : List Concept}
    (steps : Steps catalog state events concepts later) :
    openBehind state.stack events = later.stack := by
  induction steps with
  | refl => rfl
  | head step _ inductionHypothesis =>
    rw [openBehind_append, openBehind_step step, inductionHypothesis]

theorem openBehind_halts
    {catalog : Catalog} {state : State} {parse : Parse}
    (halts : Halts catalog state parse) (opened : List Concept) :
    openBehind opened parse.events = opened := by
  cases halts with
  | finished => rfl
  | unclosed => rfl
  | unopened => rfl
  | unread => exact openBehind_readConcept ..
  | unended => exact openBehind_readConcept ..

/-! ## Faults at the end of the tokens -/

theorem le_furthest
    {faults : List Fault} {fault : Fault}
    (member : fault ∈ faults) :
    ∃ found, furthest faults = some found ∧ fault.offset ≤ found.offset := by
  induction faults with
  | nil => cases member
  | cons first later inductionHypothesis =>
    rw [furthest]
    rcases List.mem_cons.1 member with rfl | isLater
    · cases isFurthest : furthest later with
      | none => exact ⟨fault, rfl, Nat.le_refl _⟩
      | some other =>
        dsimp only
        split
        · next isBefore => exact ⟨other, rfl, isBefore⟩
        · exact ⟨fault, rfl, Nat.le_refl _⟩
    · obtain ⟨other, isFurthest, isBefore⟩ := inductionHypothesis isLater
      rw [isFurthest]
      dsimp only
      split
      · exact ⟨other, rfl, isBefore⟩
      · next notBefore => exact ⟨first, rfl, by omega⟩

/-- A concept that can be read once more tokens are there, and not yet in any way, is refused at the
end of the tokens. -/
theorem readConcept_at_end
    {catalog : Catalog} {stack : List Concept} {reader : Reader} {keyword : Token}
    {behind tail : List Token} {stop : Nat} {reading : Concept × Reader}
    (isRest : reader.rest = keyword :: behind)
    (isRead : (readConcept catalog stack (reader.extend tail stop) keyword).2 = .ok reading)
    (noReading : readings (attemptsAt catalog stack reader keyword) = []) :
    ∃ fault, (readConcept catalog stack reader keyword).2 = .error fault ∧
      reader.stop ≤ fault.offset := by
  have isText := isText_of_readConcept isRead
  rw [readConcept_of_isText isText] at isRead ⊢
  obtain ⟨attempted, isAttempted, isOk⟩ := mem_of_choose isRead
  obtain ⟨type, isType, rfl⟩ := List.mem_map.1 isAttempted
  have isTried : attempt reader type ∈ attemptsAt catalog stack reader keyword :=
    List.mem_map_of_mem isType
  have notRead : ∀ found, (attempt reader type).2 ≠ .ok found := by
    intro found isFound
    have member : found ∈ readings (attemptsAt catalog stack reader keyword) :=
      List.mem_filterMap.2 ⟨_, isTried, by rw [isFound]; rfl⟩
    rw [noReading] at member
    cases member
  have advanced : (reader.extend tail stop).advance = reader.advance.extend tail stop := by
    simp [Reader.advance, Reader.extend, isRest]
  have sameStop : reader.advance.stop = reader.stop := by
    simp [Reader.advance, isRest]
  rcases readMembers_at_end type [] type.members reader.advance with
    isSame | ⟨concept, next, isFound, -⟩ | ⟨fault, isFault, isEnd⟩
  · rw [attempt, advanced, isSame] at isOk
    cases isFound : (attempt reader type).2 with
    | ok found => exact absurd isFound (notRead found)
    | error fault =>
      rw [attempt] at isFound
      rw [Attempt.extend, isFound] at isOk
      cases isOk
  · exact absurd isFound (notRead (concept, next))
  · have isReported : fault ∈ faults (attemptsAt catalog stack reader keyword) :=
      List.mem_filterMap.2 ⟨_, isTried, by rw [attempt, isFault]⟩
    obtain ⟨found, isFurthest, isBefore⟩ := le_furthest isReported
    have known : (catalog.typesFor keyword.value).isEmpty = false := by
      rw [List.isEmpty_eq_false_iff]
      exact List.ne_nil_of_mem (List.mem_filter.1 isType).1
    have isChosen : choose catalog stack keyword (attemptsAt catalog stack reader keyword) =
        .error found := by
      simp [choose, noReading, longest, known, isFurthest]
    refine ⟨found, isChosen, ?_⟩
    rw [← sameStop, ← isEnd]
    exact isBefore

/-! ## Tokens that are taken for something else -/

theorem longest_ne_nil
    {found : List (Concept × Reader)}
    (notEmpty : found ≠ []) :
    longest found ≠ [] := by
  have isLongest : ∃ reading ∈ found, ∀ other ∈ found,
      other.2.position ≤ reading.2.position := by
    induction found with
    | nil => exact absurd rfl notEmpty
    | cons first found inductionHypothesis =>
      by_cases isLast : found = []
      · exact ⟨first, by simp, by simp [isLast]⟩
      · obtain ⟨reading, member, greatest⟩ := inductionHypothesis isLast
        by_cases isShorter : first.2.position ≤ reading.2.position
        · exact ⟨reading, by simp [member], by simpa [isShorter] using greatest⟩
        · refine ⟨first, by simp, fun other isOther => ?_⟩
          rcases List.mem_cons.1 isOther with rfl | isLater
          · exact Nat.le_refl _
          · have bound := greatest other isLater
            omega
  obtain ⟨reading, member, greatest⟩ := isLongest
  have isFound : reading ∈ longest found := by simpa [longest, member] using greatest
  exact List.ne_nil_of_mem isFound

/-- Of several readings that are equally long, none is taken. -/
theorem offset_of_ambiguous
    {catalog : Catalog} {stack : List Concept} {keyword : Token} {attempts : List Attempt}
    {fault : Fault}
    (isFault : choose catalog stack keyword attempts = .error fault)
    (isReading : readings attempts ≠ []) :
    fault.offset = keyword.start := by
  unfold choose at isFault
  split at isFault
  · cases isFault
  · next isEmpty => exact absurd isEmpty (longest_ne_nil isReading)
  · rw [← Except.error.inj isFault]

end Parse

/-- Tokens that can be taken to start with a concept, but not for a single one and nothing else. -/
def Grammar.Misread (catalog : Catalog) (parent : Option ConceptType) (tokens : List Token) :
    Prop :=
  (∃ concept head after, head ++ after = tokens ∧ Reading catalog parent concept head after) ∧
    ¬ ∃ concept, Chosen catalog parent concept tokens []

namespace Parse

/-- Without a barrier to come there is no step. -/
theorem exists_halts_of_begun
    (catalog : Catalog) (stack : List Concept) {reader : Reader}
    (noBarrier : ∀ token ∈ reader.rest, token.isBarrier = false) :
    ∃ parse, Halts catalog ⟨stack, reader⟩ parse := by
  have notMark : ∀ mark sign, mark.isSpecial sign = true → sign ≠ "." →
      mark ∉ reader.rest := by
    intro mark sign isMark notDot member
    have isBarrier := Token.isBarrier_of_isSpecial isMark notDot
    rw [noBarrier mark member] at isBarrier
    cases isBarrier
  rcases halts_or_step catalog ⟨stack, reader⟩ with halts | ⟨events, concepts, later, step⟩
  · exact halts
  · cases step with
    | closes isBrace => exact absurd List.mem_cons_self (notMark _ _ isBrace (by decide))
    | ends isRest isRead isMark =>
      exact absurd (mark_mem_rest isRest isRead) (notMark _ _ isMark (by decide))
    | opens isRest isRead isMark =>
      exact absurd (mark_mem_rest isRest isRead) (notMark _ _ isMark (by decide))

theorem readConcept_of_chosen_rest
    {catalog : Catalog} {stack : List Concept} {reader : Reader} {keyword : Token}
    {behind : List Token} {concept : Concept}
    (isRest : reader.rest = keyword :: behind)
    (chosen : Chosen catalog (parentType stack) concept reader.rest []) :
    (readConcept catalog stack reader keyword).2 =
      .ok (concept, ⟨reader.rest.reverse ++ reader.consumed, [], reader.stop⟩) :=
  (readConcept_eq_ok_iff isRest).2 ⟨reader.rest, [], by simp, rfl, chosen⟩

/-- A concept that is refused, and that is read once more tokens are there, is refused at its
keyword if several readings are equally long, and at the end of the tokens if there is none. -/
theorem unread_offset_lt_iff
    {catalog : Catalog} {stack : List Concept} {reader : Reader} {keyword : Token}
    {behind tail : List Token} {stop : Nat} {reading : Concept × Reader} {fault : Fault}
    (isRest : reader.rest = keyword :: behind)
    (isRead : (readConcept catalog stack (reader.extend tail stop) keyword).2 = .ok reading)
    (starts : ∀ token ∈ reader.rest, token.start < reader.stop)
    (isFault : (readConcept catalog stack reader keyword).2 = .error fault) :
    fault.offset < reader.stop ↔ Misread catalog (parentType stack) reader.rest := by
  have isText := isText_of_readConcept isRead
  by_cases noReading : readings (attemptsAt catalog stack reader keyword) = []
  · obtain ⟨found, isFound, isEnd⟩ := readConcept_at_end isRest isRead noReading
    obtain rfl := Except.error.inj (isFault.symm.trans isFound)
    constructor
    · intro isBefore
      omega
    · rintro ⟨⟨concept, head, after, isHead, isReading⟩, -⟩
      have member := (mem_readings_iff isRest isText).2 ⟨head, after, isHead, rfl, isReading⟩
      rw [noReading] at member
      cases member
  · have atKeyword : fault.offset = keyword.start := by
      rw [readConcept_of_isText isText] at isFault
      exact offset_of_ambiguous isFault noReading
    obtain ⟨⟨concept, next⟩, member⟩ := List.exists_mem_of_ne_nil _ noReading
    obtain ⟨head, after, isHead, -, isReading⟩ := (mem_readings_iff isRest isText).1 member
    constructor
    · intro _
      refine ⟨⟨concept, head, after, isHead, isReading⟩, ?_⟩
      rintro ⟨whole, chosen⟩
      rw [readConcept_of_chosen_rest isRest chosen] at isFault
      cases isFault
    · intro _
      rw [atKeyword]
      apply starts
      rw [isRest]
      exact List.mem_cons_self

/-- A concept that is read lacks its mark in front of the end exactly if tokens are left over. -/
theorem unended_offset_lt_iff
    {catalog : Catalog} {stack : List Concept} {reader next : Reader} {keyword : Token}
    {behind : List Token} {concept : Concept}
    (isRest : reader.rest = keyword :: behind)
    (starts : ∀ token ∈ reader.rest, token.start < reader.stop)
    (isRead : (readConcept catalog stack reader keyword).2 = .ok (concept, next)) :
    next.faultOffset < reader.stop ↔ Misread catalog (parentType stack) reader.rest := by
  obtain ⟨head, after, isHead, rfl, chosen⟩ := (readConcept_eq_ok_iff isRest).1 isRead
  cases after with
  | nil =>
    rw [List.append_nil] at isHead
    subst isHead
    constructor
    · intro isBefore
      exact absurd isBefore (Nat.lt_irrefl _)
    · rintro ⟨-, notChosen⟩
      exact absurd ⟨concept, chosen⟩ notChosen
  | cons token after =>
    constructor
    · intro _
      refine ⟨⟨concept, head, token :: after, isHead, chosen.toReading⟩, ?_⟩
      rintro ⟨whole, wholeChosen⟩
      rw [readConcept_of_chosen_rest isRest wholeChosen] at isRead
      have sameRest := congrArg Reader.rest (Prod.mk.inj (Except.ok.inj isRead)).2
      cases sameRest
    · intro _
      apply starts
      rw [← isHead]
      simp

/-- A concept that is begun, and that is read once the rest of it is there. -/
theorem begun_fault_iff
    {catalog : Catalog} {stack : List Concept} {reader : Reader} {keyword : Token}
    {behind tail : List Token} {stop : Nat} {reading : Concept × Reader} {parse : Parse}
    (isRest : reader.rest = keyword :: behind)
    (noBarrier : ∀ token ∈ reader.rest, token.isBarrier = false)
    (isRead : (readConcept catalog stack (reader.extend tail stop) keyword).2 = .ok reading)
    (starts : ∀ token ∈ reader.rest, token.start < reader.stop)
    (halts : Halts catalog ⟨stack, reader⟩ parse) :
    (∃ fault, parse.outcome = .error fault ∧ fault.offset < reader.stop) ↔
      Misread catalog (parentType stack) reader.rest := by
  cases halts with
  | finished => cases isRest
  | unclosed => cases isRest
  | unopened isBrace =>
    have isBarrier := Token.isBarrier_of_isSpecial isBrace (by decide)
    rw [noBarrier _ List.mem_cons_self] at isBarrier
    cases isBarrier
  | unread isOther _ isFault =>
    obtain ⟨rfl, -⟩ := List.cons.inj (isOther.symm.trans isRest)
    rw [← unread_offset_lt_iff isRest isRead starts isFault]
    simp
  | unended isOther isFound _ =>
    obtain ⟨rfl, -⟩ := List.cons.inj (isOther.symm.trans isRest)
    rw [← unended_offset_lt_iff isRest starts isFound]
    simp

theorem halts_outcome
    {catalog : Catalog} {state : State} {parse : Parse}
    (halts : Halts catalog state parse)
    (notEnd : state.reader.rest ≠ []) :
    ∃ fault, parse.outcome = .error fault := by
  cases halts with
  | finished => exact absurd rfl notEnd
  | unclosed => exact absurd rfl notEnd
  | unopened => exact ⟨_, rfl⟩
  | unread => exact ⟨_, rfl⟩
  | unended => exact ⟨_, rfl⟩

/-- Where a script can be read behind a barrier, the next concept can be. -/
theorem exists_read_of_begun
    {catalog : Catalog} {stack : List Concept} {reader : Reader} {keyword : Token}
    {behind : List Token} {concepts : List Concept}
    (isRest : reader.rest = keyword :: behind)
    (notBarrier : keyword.isBarrier = false)
    (isOk : (State.parse catalog ⟨stack, reader⟩).outcome = .ok concepts) :
    ∃ reading, (readConcept catalog stack reader keyword).2 = .ok reading := by
  rcases halts_or_step catalog ⟨stack, reader⟩ with ⟨parse, halts⟩ | ⟨events, read, later, step⟩
  · have notEnd : reader.rest ≠ [] := by simp [isRest]
    obtain ⟨fault, isFault⟩ := halts_outcome halts notEnd
    rw [parse_of_halts halts, isFault] at isOk
    cases isOk
  · cases step with
    | closes isBrace =>
      obtain ⟨rfl, -⟩ := List.cons.inj isRest
      rw [Token.isBarrier_of_isSpecial isBrace (by decide)] at notBarrier
      cases notBarrier
    | ends isOther isRead isMark =>
      obtain ⟨rfl, -⟩ := List.cons.inj (isOther.symm.trans isRest)
      exact ⟨_, isRead⟩
    | opens isOther isRead isMark =>
      obtain ⟨rfl, -⟩ := List.cons.inj (isOther.symm.trans isRest)
      exact ⟨_, isRead⟩

/-- Behind the last barrier. -/
theorem begun_outcome_iff
    (catalog : Catalog) (stack : List Concept) (reader : Reader) {tail : List Token} {stop : Nat}
    {concepts : List Concept}
    (noBarrier : ∀ token ∈ reader.rest, token.isBarrier = false)
    (starts : ∀ token ∈ reader.rest, token.start < reader.stop)
    (isOk : (State.parse catalog ⟨stack, reader.extend tail stop⟩).outcome = .ok concepts) :
    ((∃ fault, (State.parse catalog ⟨stack, reader⟩).outcome = .error fault ∧
          fault.offset < reader.stop) ↔
        Misread catalog (parentType stack) reader.rest) ∧
      openBehind stack (State.parse catalog ⟨stack, reader⟩).events = stack := by
  obtain ⟨parse, halts⟩ := exists_halts_of_begun catalog stack noBarrier
  rw [parse_of_halts halts]
  refine ⟨?_, openBehind_halts halts stack⟩
  cases isRest : reader.rest with
  | cons keyword behind =>
    have extendedRest : (reader.extend tail stop).rest = keyword :: (behind ++ tail) := by
      simp [Reader.extend, isRest]
    have notBarrier := noBarrier keyword (by simp [isRest])
    obtain ⟨reading, isRead⟩ := exists_read_of_begun extendedRest notBarrier isOk
    rw [← isRest]
    exact begun_fault_iff isRest noBarrier isRead starts halts
  | nil =>
    constructor
    · rintro ⟨fault, isFault, isBefore⟩
      cases halts with
      | finished => cases isFault
      | unclosed =>
        obtain rfl := Except.error.inj isFault
        exact absurd isBefore (Nat.lt_irrefl _)
      | unopened => cases isRest
      | unread isOther => cases isRest.symm.trans isOther
      | unended isOther => cases isRest.symm.trans isOther
    · rintro ⟨⟨concept, head, after, isHead, isReading⟩, -⟩
      obtain ⟨rfl, -⟩ := List.append_eq_nil_iff.1 isHead
      cases isReading.written

/-- The first tokens of a script are faulty in front of their end exactly where they are misread. -/
theorem exists_fault_iff_misread
    (catalog : Catalog) {front back : List Token} {frontStop stop : Nat} {concepts : List Concept}
    (isOk : (catalog.parse (front ++ back) stop).outcome = .ok concepts)
    (starts : ∀ token ∈ front, token.start < frontStop) :
    (∃ fault, (catalog.parse front frontStop).outcome = .error fault ∧
        fault.offset < frontStop) ↔
      Misread catalog (parentType (catalog.parse front frontStop).openAtEnd) (begun front) := by
  rcases parse_append_cases catalog front back frontStop stop with
    ⟨events, read, opened, steps, isFront, isWhole⟩ |
      ⟨events, read, halted, parse, steps, halts, bounded, isFront, isWhole⟩
  · have begunStarts : ∀ token ∈ begun front, token.start < frontStop := by
      intro token member
      apply starts
      rw [← ended_append_begun front]
      exact List.mem_append_right _ member
    have laterOk : ∃ later, (State.parse catalog
        ⟨opened, ⟨(ended front).reverse, begun front ++ back, stop⟩⟩).outcome = .ok later := by
      rw [isWhole, Parse.after] at isOk
      cases isLater : (State.parse catalog
          ⟨opened, ⟨(ended front).reverse, begun front ++ back, stop⟩⟩).outcome with
      | ok later => exact ⟨later, rfl⟩
      | error fault =>
        rw [isLater] at isOk
        cases isOk
    obtain ⟨later, isLater⟩ := laterOk
    obtain ⟨isIff, sameOpened⟩ :=
      begun_outcome_iff catalog opened ⟨(ended front).reverse, begun front, frontStop⟩
        (fun _ => isBarrier_of_begun) begunStarts isLater
    have isOpened : (catalog.parse front frontStop).openAtEnd = opened := by
      have steppedTo := openBehind_steps steps
      simp only [State.initial] at steppedTo
      rw [isFront, openAtEnd, Parse.after, openBehind_append, openBehind_extend, steppedTo,
        sameOpened]
    rw [isOpened, ← isIff, isFront, Parse.after]
    generalize (State.parse catalog
      ⟨opened, ⟨(ended front).reverse, begun front, frontStop⟩⟩).outcome = outcome
    cases outcome with
    | ok more => simp [Except.map]
    | error fault => simp [Except.map]
  · -- The script would be refused in front of the barrier as well.
    obtain ⟨fault, isFault⟩ := halts_outcome halts bounded.rest_ne_nil
    rw [isWhole, Parse.after, Parse.extend, isFault] at isOk
    cases isOk

end Parse

end ConceptScript
