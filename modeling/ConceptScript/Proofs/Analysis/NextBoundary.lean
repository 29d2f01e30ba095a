import ConceptScript.Proofs.Analysis.Progress

/-!
Contract: the boundaries that a parse reports, and the first one behind an offset.

A boundary is the keyword of a concept, or the mark that ended one. Boundaries are reported from
front to back. So the first one that is reported behind an offset is also the one that stands first.

Owns the boundaries of events and their order, and which of them a cursor records as next.

Does not own what the boundary is needed for.
-/

set_option autoImplicit false

namespace ConceptScript

namespace Event

/-- The keyword of a concept, or the mark that ended one. -/
def boundary? : Event → Option Token
  | .keyword reader word => Cursor.boundary? reader word
  | .member _ _ _ _ | .opened _ _ | .closed _ _ => none

def boundaries (events : List Event) : List Token :=
  events.filterMap boundary?

theorem boundaries_append (first second : List Event) :
    boundaries (first ++ second) = boundaries first ++ boundaries second :=
  List.filterMap_append

end Event

/-! ## The next boundary of a cursor -/

namespace Cursor

theorem next_step (target : Target) (cursor : Cursor) (event : Event) :
    (cursor.step target event).next =
      cursor.next.or (event.boundary?.filter fun token => target.offset < token.start) := by
  cases event with
  | keyword reader word =>
    simp only [step, onKeyword, Event.boundary?]
    cases boundary? reader word with
    | none => simp
    | some token =>
      by_cases isBefore : token.start ≤ target.offset
      · have notBehind : ¬ target.offset < token.start := Nat.not_lt_of_le isBefore
        cases word <;> simp [isBefore, notBehind, Option.filter]
      · have isBehind : target.offset < token.start := Nat.lt_of_not_le isBefore
        simp [isBefore, isBehind, Option.filter]
  | member reader concept member value =>
    simp only [step, onMember, Event.boundary?]
    split <;> simp
  | opened reader stack =>
    obtain ⟨context, isCursor⟩ := exists_context_onContext target cursor reader stack
    rw [step, isCursor]
    exact Option.or_none.symm
  | closed reader stack =>
    obtain ⟨context, isCursor⟩ := exists_context_onContext target cursor reader stack
    rw [step, isCursor]
    exact Option.or_none.symm

theorem next_foldl (target : Target) (events : List Event) (cursor : Cursor) :
    (events.foldl (step target) cursor).next =
      cursor.next.or
        ((Event.boundaries events).find? fun token => target.offset < token.start) := by
  induction events generalizing cursor with
  | nil => exact Option.or_none.symm
  | cons event events inductionHypothesis =>
    rw [List.foldl_cons, inductionHypothesis, next_step, Option.or_assoc]
    congr 1
    cases isBoundary : event.boundary? with
    | none => simp [Event.boundaries, isBoundary]
    | some token =>
      have isCons : Event.boundaries (event :: events) = token :: Event.boundaries events :=
        List.filterMap_cons_some isBoundary
      rw [isCons, List.find?_cons, Option.filter_some]
      cases decide (target.offset < token.start) <;> rfl

/-- What a cursor records as next is the first boundary that is reported behind its offset. -/
theorem next_ofEvents (target : Target) (events : List Event) :
    (ofEvents target events).next =
      (Event.boundaries events).find? fun token => target.offset < token.start := by
  rw [ofEvents, next_foldl]
  exact Option.none_or

end Cursor

/-! ## The order of boundaries -/

namespace Parse

variable {catalog : Catalog} {state later : State} {events : List Event} {concepts : List Concept}

theorem boundaries_readConcept
    (catalog : Catalog) (stack : List Concept) (reader : Reader) (keyword : Token) :
    Event.boundaries (readConcept catalog stack reader keyword).1 =
      (Cursor.boundary? reader (word keyword)).toList := by
  obtain ⟨members, isEvents, allMembers⟩ := exists_readConcept_events catalog stack reader keyword
  have noBoundary : Event.boundaries members = [] := by
    apply List.filterMap_eq_nil_iff.2
    intro event isMember
    obtain ⟨other, concept, declared, value, rfl⟩ := (allMembers event isMember).exists_eq
    rfl
  rw [isEvents, ← List.singleton_append, Event.boundaries_append, noBoundary, List.append_nil]
  cases isBoundary : Cursor.boundary? reader (word keyword) with
  | none => simp [Event.boundaries, Event.boundary?, isBoundary]
  | some token => simp [Event.boundaries, Event.boundary?, isBoundary]

/-- A concept that is read has its keyword for a boundary. -/
theorem boundaries_of_read
    {stack : List Concept} {reader : Reader} {keyword : Token} {tail : List Token}
    {reading : Concept × Reader}
    (isRest : reader.rest = keyword :: tail)
    (isRead : (readConcept catalog stack reader keyword).2 = .ok reading) :
    Event.boundaries (readConcept catalog stack reader keyword).1 = [keyword] := by
  have isKeyword : Cursor.boundary? reader (some keyword.value) = some keyword :=
    congrArg List.head? isRest
  rw [boundaries_readConcept, word_of_readConcept isRead, isKeyword, Option.toList_some]

/-- The keyword and the mark of a concept are the first and the last token that it takes. -/
theorem sublist_of_read
    {stack : List Concept} {reader : Reader} {keyword mark : Token} {concept : Concept}
    {tail consumed behind : List Token} {stop : Nat}
    (isRest : reader.rest = keyword :: tail)
    (isRead : (readConcept catalog stack reader keyword).2 =
      .ok (concept, ⟨consumed, mark :: behind, stop⟩)) :
    ∃ taken, reader.rest = taken ++ behind ∧ [keyword, mark].Sublist taken := by
  obtain ⟨⟨taken, isTaken, -⟩, isShorter⟩ := readConcept_shorter isRest isRead
  refine ⟨taken ++ [mark], by rw [isTaken, List.append_assoc]; rfl, ?_⟩
  cases taken with
  | nil =>
    rw [isTaken] at isShorter
    exact absurd isShorter (Nat.lt_irrefl _)
  | cons first taken =>
    obtain ⟨rfl, -⟩ := List.cons.inj (isRest.symm.trans isTaken)
    exact List.cons_sublist_cons.2 (List.sublist_append_right taken [mark])

/-- The boundaries of a step are among the tokens that it takes, in their order. -/
theorem boundaries_step
    (step : Step catalog state events concepts later) :
    ∃ taken, state.reader.rest = taken ++ later.reader.rest ∧
      (Event.boundaries events).Sublist taken := by
  cases step with
  | @closes innermost outer last brace consumed behind stop isBrace =>
    exact ⟨[brace], rfl, List.nil_sublist _⟩
  | ends isRest isRead isMark =>
    rw [Event.boundaries_append, boundaries_of_read isRest isRead]
    exact sublist_of_read isRest isRead
  | opens isRest isRead isMark =>
    rw [Event.boundaries_append, boundaries_of_read isRest isRead]
    exact sublist_of_read isRest isRead

theorem boundaries_steps
    (steps : Steps catalog state events concepts later) :
    ∃ taken, state.reader.rest = taken ++ later.reader.rest ∧
      (Event.boundaries events).Sublist taken := by
  induction steps with
  | refl => exact ⟨[], rfl, List.nil_sublist _⟩
  | head step _ inductionHypothesis =>
    obtain ⟨first, isFirst, firstSublist⟩ := boundaries_step step
    obtain ⟨second, isSecond, secondSublist⟩ := inductionHypothesis
    refine ⟨first ++ second, by rw [isFirst, isSecond, List.append_assoc], ?_⟩
    rw [Event.boundaries_append]
    exact firstSublist.append secondSublist

theorem boundary?_eq_some
    {reader : Reader} {word : Option String} {boundary : Token}
    (isBoundary : Cursor.boundary? reader word = some boundary) :
    reader.peek? = some boundary ∨ reader.last? = some boundary := by
  unfold Cursor.boundary? at isBoundary
  split at isBoundary
  · next isLast => exact .inr (isLast.trans isBoundary)
  · exact .inl isBoundary

/-- Where a parse halts, one more boundary is reported at most: the token to come, or the last one
taken. -/
theorem boundaries_halts
    {parse : Parse}
    (halts : Halts catalog state parse) :
    ∃ boundary : Option Token, Event.boundaries parse.events = boundary.toList ∧
      ∀ token ∈ boundary,
        state.reader.peek? = some token ∨ state.reader.last? = some token := by
  cases halts with
  | finished => exact ⟨none, rfl, by simp⟩
  | unclosed => exact ⟨none, rfl, by simp⟩
  | unopened => exact ⟨none, rfl, by simp⟩
  | unread => exact ⟨_, boundaries_readConcept .., fun _ => boundary?_eq_some⟩
  | unended => exact ⟨_, boundaries_readConcept .., fun _ => boundary?_eq_some⟩

end Parse

/-- No token that was consumed starts behind the last one of them or the one to come. -/
theorem Reader.start_le_of_consumed
    {reader : Reader} {token boundary : Token}
    (ordered : reader.tokens.Pairwise fun earlier later => earlier.start < later.start)
    (isConsumed : token ∈ reader.consumed)
    (isBoundary : reader.peek? = some boundary ∨ reader.last? = some boundary) :
    token.start ≤ boundary.start := by
  obtain ⟨consumedOrdered, -, restBehind⟩ := List.pairwise_append.1 ordered
  rcases isBoundary with isNext | isLast
  · have toCome : boundary ∈ reader.rest := List.mem_of_mem_head? isNext
    exact Nat.le_of_lt (restBehind token (List.mem_reverse.2 isConsumed) boundary toCome)
  · obtain ⟨earlier, isConsumedList⟩ := List.head?_eq_some_iff.1 isLast
    rw [isConsumedList] at isConsumed consumedOrdered
    rcases List.mem_cons.1 isConsumed with rfl | isEarlier
    · exact Nat.le_refl _
    · exact Nat.le_of_lt (List.rel_of_pairwise_cons (List.pairwise_reverse.1 consumedOrdered)
        isEarlier)

/-- Boundaries are tokens, and they are reported in the order of the text. -/
theorem Catalog.boundaries_parse
    {tokens : List Token}
    (ordered : tokens.Pairwise fun earlier later => earlier.start < later.start)
    (catalog : Catalog) (stop : Nat) :
    Event.boundaries (catalog.parse tokens stop).events ⊆ tokens ∧
      (Event.boundaries (catalog.parse tokens stop).events).Pairwise
        fun earlier later => earlier.start ≤ later.start := by
  obtain ⟨events, concepts, halted, parse, steps, halts⟩ :=
    Parse.exists_steps_halts catalog (.initial tokens stop)
  have isParse : catalog.parse tokens stop = parse.after events concepts :=
    Parse.parse_eq_after steps halts
  have isEvents : Event.boundaries (catalog.parse tokens stop).events =
      Event.boundaries events ++ Event.boundaries parse.events := by
    rw [isParse]
    exact Event.boundaries_append events parse.events
  obtain ⟨taken, isTaken, isSublist⟩ := Parse.boundaries_steps steps
  obtain ⟨boundary, isLast, atHalt⟩ := Parse.boundaries_halts halts
  have sameTokens : halted.reader.tokens = tokens := steps.reaches.tokens_eq
  have isConsumed : halted.reader.consumed.reverse = taken :=
    List.append_cancel_right (sameTokens.trans isTaken)
  rw [isEvents, isLast]
  rw [← sameTokens] at ordered ⊢
  rw [← isConsumed] at isSublist
  constructor
  · refine List.append_subset.2
      ⟨fun token isToken => List.mem_append_left _ (isSublist.subset isToken), ?_⟩
    intro token isToken
    rcases atHalt token (Option.mem_toList.1 isToken) with isNext | isPast
    · exact List.mem_append_right _ (List.mem_of_mem_head? isNext)
    · exact List.mem_append_left _ (List.mem_reverse.2 (List.mem_of_mem_head? isPast))
  · refine List.pairwise_append.2 ⟨?_, ?_, ?_⟩
    · exact ((List.pairwise_append.1 ordered).1.sublist isSublist).imp Nat.le_of_lt
    · cases boundary <;> simp
    · intro earlier isEarlier token isToken
      exact Reader.start_le_of_consumed ordered
        (List.mem_reverse.1 (isSublist.subset isEarlier)) (atHalt token (Option.mem_toList.1 isToken))

end ConceptScript
