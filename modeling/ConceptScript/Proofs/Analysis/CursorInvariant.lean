import ConceptScript.Proofs.Analysis.NextBoundary

/-!
Contract: what holds of a cursor whatever is reported to it.

A parser reports its events in an order of its own. None of the facts below needs that order. They
hold after any events at all, as long as every event is reported from a place among the same tokens.

Owns these facts, that every event keeps them, and what the entries of a cursor are after any
events.

Does not own what the events of a parser add to them.
-/

set_option autoImplicit false

namespace ConceptScript

/-! ## The last token in front of the offset -/

/-- The last of the tokens that starts at or before the offset. -/
def Token.IsLastBefore (tokens : List Token) (offset : Nat) (token : Token) : Prop :=
  token.start ≤ offset ∧ ∃ front back, tokens = front ++ token :: back ∧
    ∀ later ∈ back, offset < later.start

namespace Target

variable {tokens : List Token} {offset : Nat}

theorem isLastBefore_of_before
    {before : Token}
    (isBefore : (Target.ofTokens tokens offset).before = some before) :
    Token.IsLastBefore tokens offset before := by
  obtain ⟨startsBefore, back, front, isReverse, allBehind⟩ :=
    List.find?_eq_some_iff_append.1 isBefore
  refine ⟨of_decide_eq_true startsBefore, front.reverse, back.reverse, ?_, ?_⟩
  · rw [← List.reverse_reverse tokens, isReverse]
    simp
  · intro later isLater
    have isBehind := allBehind later (List.mem_reverse.1 isLater)
    simpa using isBehind

theorem before_ne_some
    (allBehind : ∀ token ∈ tokens, offset < token.start) (before : Token) :
    (Target.ofTokens tokens offset).before ≠ some before := by
  have noneBefore : (Target.ofTokens tokens offset).before = none := by
    simpa [Target.ofTokens] using allBehind
  rw [noneBefore]
  exact (Option.some_ne_none before).symm

end Target

/-! ## Tokens that events are about -/

namespace Reader

theorem mem_tokens_of_last?
    {reader : Reader} {token : Token}
    (isLast : reader.last? = some token) :
    token ∈ reader.tokens :=
  List.mem_append_left _ (List.mem_reverse.2 (List.mem_of_mem_head? isLast))

theorem mem_tokens_of_peek?
    {reader : Reader} {token : Token}
    (isNext : reader.peek? = some token) :
    token ∈ reader.tokens :=
  List.mem_append_right _ (List.mem_of_mem_head? isNext)

end Reader

namespace Event

theorem mem_tokens_of_boundary?
    {event : Event} {token : Token}
    (isBoundary : event.boundary? = some token) :
    token ∈ event.reader.tokens := by
  cases event with
  | keyword reader word =>
    rcases Parse.boundary?_eq_some isBoundary with isNext | isLast
    · exact Reader.mem_tokens_of_peek? isNext
    · exact Reader.mem_tokens_of_last? isLast
  | member reader concept member value => cases isBoundary
  | opened reader stack => cases isBoundary
  | closed reader stack => cases isBoundary

theorem mem_tokens_of_read?
    {event : Event} {read : Read}
    (isRead : event.read? = some read) :
    read.last ∈ event.reader.tokens := by
  cases event with
  | keyword reader word => cases isRead
  | opened reader stack => cases isRead
  | closed reader stack => cases isRead
  | member reader concept member value =>
    cases value with
    | error fault => cases isRead
    | ok value =>
      obtain ⟨last, isLast, rfl⟩ := Option.map_eq_some_iff.1 isRead
      exact Reader.mem_tokens_of_last? isLast

end Event

/-! ## Entries -/

namespace ByType

variable {α : Type}

/-- The types that have an entry. -/
def names (entries : ByType α) : List String :=
  entries.map Prod.fst

theorem names_record (entries : ByType α) (name : String) (value : α) :
    (entries.record name value).names =
      if name ∈ entries.names then entries.names else entries.names ++ [name] := by
  unfold names
  induction entries with
  | nil => rfl
  | cons entry later inductionHypothesis =>
    rw [record]
    by_cases isEntry : entry.1 = name
    · simp [isEntry]
    · rw [if_neg isEntry, List.map_cons, inductionHypothesis]
      simp only [List.map_cons, List.mem_cons, Ne.symm isEntry, false_or]
      split <;> rfl

theorem mem_record
    {entries : ByType α} {name : String} {value : α} {entry : String × α}
    (isEntry : entry ∈ entries.record name value) :
    entry ∈ entries ∨ entry = (name, value) := by
  induction entries with
  | nil => exact .inr (List.mem_singleton.1 isEntry)
  | cons first later inductionHypothesis =>
    rw [record] at isEntry
    split at isEntry
    · rcases List.mem_cons.1 isEntry with isNew | isLater
      · exact .inr isNew
      · exact .inl (List.mem_cons_of_mem first isLater)
    · rcases List.mem_cons.1 isEntry with rfl | isLater
      · exact .inl List.mem_cons_self
      · exact (inductionHypothesis isLater).imp_left (List.mem_cons_of_mem first)

theorem nodup_record
    {entries : ByType α}
    (distinct : entries.names.Nodup) (name : String) (value : α) :
    (entries.record name value).names.Nodup := by
  rw [names_record]
  split
  · exact distinct
  · next isNew =>
    refine List.nodup_append.2 ⟨distinct, List.nodup_singleton name, ?_⟩
    rintro known isKnown other isOther rfl
    rw [List.mem_singleton.1 isOther] at isKnown
    exact isNew isKnown

theorem mem_names_record_iff (entries : ByType α) (name other : String) (value : α) :
    other ∈ (entries.record name value).names ↔ other ∈ entries.names ∨ other = name := by
  rw [names_record]
  split
  · next isKnown =>
    constructor
    · exact .inl
    · rintro (isOther | rfl)
      · exact isOther
      · exact isKnown
  · rw [List.mem_append, List.mem_singleton]

end ByType

namespace Cursor

/-! ## What an event can change -/

/-- The candidates are left as they are, or a concept is added to them. -/
def Extends (earlier later : List Concept) : Prop :=
  later = earlier ∨ ∃ concept, later = addCandidate earlier concept

theorem extends_addCandidate_if
    (isReached : Prop) [Decidable isReached] (candidates : List Concept) (concept : Concept) :
    Extends candidates (if isReached then addCandidate candidates concept else candidates) := by
  split
  · exact .inr ⟨concept, rfl⟩
  · exact .inl rfl

theorem Extends.nodup
    {earlier later : List Concept}
    (isExtended : Extends earlier later)
    (distinct : (earlier.map Concept.typeName).Nodup) :
    (later.map Concept.typeName).Nodup := by
  rcases isExtended with rfl | ⟨concept, rfl⟩
  · exact distinct
  · exact nodup_addCandidate distinct concept

/-- What a cursor can become by an event. -/
inductive Change (target : Target) (event : Event) (cursor : Cursor) : Cursor → Prop where
  | unchanged : Change target event cursor cursor
  | begun {token : Token}
      (isBoundary : event.boundary? = some token)
      (startsBefore : token.start ≤ target.offset) :
      Change target event cursor { cursor with keyword := some token, candidates := [] }
  | ended : Change target event cursor { cursor with keyword := none }
  | passed {token : Token}
      (startsBehind : target.offset < token.start) :
      Change target event cursor { cursor with next := cursor.next.or (some token) }
  | tried {before : Token} {candidates : List Concept}
      (isBefore : target.before = some before)
      (isExtended : Extends cursor.candidates candidates) :
      Change target event cursor { cursor with candidates := candidates }
  | read {before token : Token} {candidates : List Concept}
      (isBefore : target.before = some before)
      (isExtended : Extends cursor.candidates candidates)
      (notBehind : token.start ≤ before.start) (name : String) (member : Member) :
      Change target event cursor { cursor with
        candidates := candidates
        lastTokens := cursor.lastTokens.record name token
        lastMembers := cursor.lastMembers.record name member }
  | moved (stack : List Concept) : Change target event cursor { cursor with context := stack }

theorem change_onContext
    (target : Target) (event : Event) (cursor : Cursor) (reader : Reader) (stack : List Concept) :
    Change target event cursor (cursor.onContext target reader stack) := by
  obtain ⟨context, isCursor⟩ := exists_context_onContext target cursor reader stack
  rw [isCursor]
  exact .moved context

theorem change_step (target : Target) (cursor : Cursor) (event : Event) :
    Change target event cursor (cursor.step target event) := by
  cases event with
  | keyword reader word =>
    simp only [step, onKeyword]
    split
    · exact .unchanged
    · next token isBoundary =>
      split
      · next startsBefore =>
        split
        · exact .begun isBoundary startsBefore
        · exact .ended
      · next startsBehind => exact .passed (Nat.lt_of_not_le startsBehind)
  | member reader concept member value =>
    simp only [step, onMember]
    split
    · next last before isLast isBefore =>
      have isExtended :=
        extends_addCandidate_if (before.start ≤ last.start) cursor.candidates concept
      by_cases isNoted : (decide (last.start ≤ before.start) && value.isOk) = true
      · rw [if_pos isNoted, if_pos isNoted]
        rw [Bool.and_eq_true, decide_eq_true_eq] at isNoted
        exact .read isBefore isExtended isNoted.1 concept.typeName member
      · rw [if_neg isNoted, if_neg isNoted]
        exact .tried isBefore isExtended
    · exact .unchanged
  | opened reader stack => exact change_onContext ..
  | closed reader stack => exact change_onContext ..

/-! ## What every event keeps -/

/-- What holds of a cursor over tokens. -/
structure Consistent (tokens : List Token) (offset : Nat) (cursor : Cursor) : Prop where
  candidatesDistinct : (cursor.candidates.map Concept.typeName).Nodup
  keywordBefore : ∀ token ∈ cursor.keyword, token.start ≤ offset
  nextBehind : ∀ token ∈ cursor.next, offset < token.start
  /-- Each type has at most one last token. -/
  tokensDistinct : cursor.lastTokens.names.Nodup
  /-- Each type has at most one last member. -/
  membersDistinct : cursor.lastMembers.names.Nodup
  /-- The types with a last token are those with a last member. -/
  sameTypes : ∀ name, name ∈ cursor.lastTokens.names ↔ name ∈ cursor.lastMembers.names
  tokensBefore : ∀ entry ∈ cursor.lastTokens, ∃ before,
    Token.IsLastBefore tokens offset before ∧ entry.2.start ≤ before.start
  /-- Where all tokens lie behind the offset, nothing is known in front of it. -/
  nothingBefore : (∀ token ∈ tokens, offset < token.start) →
    cursor.keyword = none ∧ cursor.candidates = [] ∧ cursor.lastTokens = [] ∧
      cursor.lastMembers = []

theorem consistent_initial (tokens : List Token) (offset : Nat) :
    Consistent tokens offset {} where
  candidatesDistinct := List.nodup_nil
  keywordBefore _ isKeyword := by cases isKeyword
  nextBehind _ isNext := by cases isNext
  tokensDistinct := List.nodup_nil
  membersDistinct := List.nodup_nil
  sameTypes _ := Iff.rfl
  tokensBefore _ isEntry := by cases isEntry
  nothingBefore _ := ⟨rfl, rfl, rfl, rfl⟩

theorem Consistent.of_change
    {tokens : List Token} {offset : Nat} {cursor later : Cursor} {event : Event}
    (consistent : Consistent tokens offset cursor)
    (overTokens : event.reader.tokens = tokens)
    (change : Change (.ofTokens tokens offset) event cursor later) :
    Consistent tokens offset later := by
  cases change with
  | unchanged => exact consistent
  | moved stack => exact { consistent with }
  | ended =>
    exact { consistent with
      keywordBefore := fun _ isKeyword => by cases isKeyword
      nothingBefore := fun allBehind => ⟨rfl, (consistent.nothingBefore allBehind).2⟩ }
  | @begun token isBoundary startsBefore =>
    have isToken : token ∈ tokens := overTokens ▸ Event.mem_tokens_of_boundary? isBoundary
    exact { consistent with
      candidatesDistinct := List.nodup_nil
      keywordBefore := fun _ isKeyword => Option.some.inj isKeyword ▸ startsBefore
      nothingBefore := fun allBehind =>
        absurd startsBefore (Nat.not_le_of_lt (allBehind token isToken)) }
  | @passed token startsBehind =>
    refine { consistent with nextBehind := ?_ }
    intro next isNext
    rcases Option.or_eq_some_iff.1 isNext with isOld | ⟨-, isNew⟩
    · exact consistent.nextBehind next isOld
    · obtain rfl := Option.some.inj isNew
      exact startsBehind
  | @tried before candidates isBefore isExtended =>
    exact { consistent with
      candidatesDistinct := isExtended.nodup consistent.candidatesDistinct
      nothingBefore := fun allBehind => absurd isBefore (Target.before_ne_some allBehind before) }
  | @read before token candidates isBefore isExtended notBehind name member =>
    exact { consistent with
      candidatesDistinct := isExtended.nodup consistent.candidatesDistinct
      tokensDistinct := ByType.nodup_record consistent.tokensDistinct name token
      membersDistinct := ByType.nodup_record consistent.membersDistinct name member
      sameTypes := fun other => by
        -- Both maps get an entry for the same type.
        rw [ByType.mem_names_record_iff, ByType.mem_names_record_iff, consistent.sameTypes]
      tokensBefore := fun entry isEntry => by
        rcases ByType.mem_record isEntry with isOld | rfl
        · exact consistent.tokensBefore entry isOld
        · exact ⟨before, Target.isLastBefore_of_before isBefore, notBehind⟩
      nothingBefore := fun allBehind => absurd isBefore (Target.before_ne_some allBehind before) }

theorem Consistent.foldl_step
    {tokens : List Token} {offset : Nat} {events : List Event} {cursor : Cursor}
    (consistent : Consistent tokens offset cursor)
    (overTokens : ∀ event ∈ events, event.reader.tokens = tokens) :
    Consistent tokens offset (events.foldl (step (.ofTokens tokens offset)) cursor) := by
  induction events generalizing cursor with
  | nil => exact consistent
  | cons event events inductionHypothesis =>
    obtain ⟨overFirst, overLater⟩ := List.forall_mem_cons.1 overTokens
    have first := consistent.of_change overFirst (change_step _ cursor event)
    exact inductionHypothesis first overLater

/-! ## The entries after events -/

theorem find?_ofEvents_over
    {tokens : List Token} {events : List Event}
    (ordered : tokens.Pairwise fun earlier later => earlier.start < later.start)
    (overTokens : ∀ event ∈ events, event.reader.tokens = tokens)
    (offset : Nat) (name : String) :
    let cursor := ofEvents (.ofTokens tokens offset) events
    cursor.lastTokens.find? name = ((readsUpTo offset name events).map Read.last).getLast? ∧
      cursor.lastMembers.find? name =
        ((readsUpTo offset name events).map Read.member).getLast? := by
  apply find?_ofEvents ordered
  intro read isMember
  obtain ⟨event, isEvent, isRead⟩ := List.mem_filterMap.1 isMember
  exact overTokens event isEvent ▸ Event.mem_tokens_of_read? isRead

/-- After each of any events over the same tokens: the cursor is consistent, it has of each type the
last token and the member that were read last, and the next boundary, once there is one, stays. -/
theorem consistent_after_each_event
    {tokens : List Token} {seen later : List Event}
    (ordered : tokens.Pairwise fun earlier later => earlier.start < later.start)
    (overTokens : ∀ event ∈ seen ++ later, event.reader.tokens = tokens) (offset : Nat) :
    let target := Target.ofTokens tokens offset
    let cursor := ofEvents target seen
    Consistent tokens offset cursor ∧
      (∀ name,
        cursor.lastTokens.find? name = ((readsUpTo offset name seen).map Read.last).getLast? ∧
        cursor.lastMembers.find? name =
          ((readsUpTo offset name seen).map Read.member).getLast?) ∧
      ∀ token, cursor.next = some token →
        (ofEvents target (seen ++ later)).next = some token := by
  intro target cursor
  have overSeen : ∀ event ∈ seen, event.reader.tokens = tokens :=
    (List.forall_mem_append.1 overTokens).1
  refine ⟨(consistent_initial tokens offset).foldl_step overSeen,
    find?_ofEvents_over ordered overSeen offset, ?_⟩
  intro token isNext
  rw [ofEvents, List.foldl_append, next_foldl]
  exact Option.or_eq_some_iff.2 (.inl isNext)

/-- Two words, a mark and a third word. -/
def fourTokens : List Token :=
  [⟨.identifier, "a", 0, 1⟩, ⟨.identifier, "b", 2, 3⟩, ⟨.special, ";", 3, 4⟩,
    ⟨.identifier, "c", 5, 6⟩]

/-- A place among the four tokens. -/
def placeIn (consumed : Nat) : Reader :=
  ⟨(fourTokens.take consumed).reverse, fourTokens.drop consumed, 6⟩

/-- Events that no parser reports in this order: a member before its keyword, a keyword at the end
of the tokens, and ends of concepts from back to front. -/
def scrambledEvents : List Event :=
  [.member (placeIn 2) ⟨{ name := "Part" }, ["b"]⟩ { name := "Of" } (.ok "b"),
    .keyword (placeIn 4) (some "d"), .keyword (placeIn 4) none]

theorem consistent_after_scrambledEvents :
    let later := [.keyword (placeIn 3) none, .keyword (placeIn 1) (some "b")]
    let cursor := ofEvents (.ofTokens fourTokens 2) scrambledEvents
    (fourTokens.Pairwise fun earlier later => earlier.start < later.start) ∧
      (∀ event ∈ scrambledEvents ++ later, event.reader.tokens = fourTokens) ∧
      Consistent fourTokens 2 cursor ∧
      cursor.lastTokens.find? "Part" = some ⟨.identifier, "b", 2, 3⟩ ∧
      cursor.lastMembers.find? "Part" = some { name := "Of" } ∧
      cursor.next = some ⟨.identifier, "c", 5, 6⟩ ∧
      (ofEvents (.ofTokens fourTokens 2) (scrambledEvents ++ later)).next =
        some ⟨.identifier, "c", 5, 6⟩ := by
  intro later cursor
  have ordered : fourTokens.Pairwise fun earlier later => earlier.start < later.start := by decide
  have overTokens : ∀ event ∈ scrambledEvents ++ later, event.reader.tokens = fourTokens := by
    decide
  have isNext : cursor.next = some ⟨.identifier, "c", 5, 6⟩ := by decide
  obtain ⟨consistent, entries, staysNext⟩ := consistent_after_each_event ordered overTokens 2
  obtain ⟨isToken, isMember⟩ := entries "Part"
  exact ⟨ordered, overTokens, consistent, isToken, isMember, isNext, staysNext _ isNext⟩

end Cursor

end ConceptScript
