import ConceptScript.Proofs.Analysis.Construct
import ConceptScript.Proofs.Script.Occurrence

/-!
Contract: how far a cursor takes a type to be read, told from the occurrences of the script.

A cursor keeps a last token and a last member for each type and never drops them. They are those of
the last member of the type that was read up to the offset, in whatever occurrence that was. So the
number of members they stand for is that of the last occurrence in which any member of the type was
read.

Owns the entries and the candidates of a cursor as facts about the events, and which occurrence the
keyword of a cursor belongs to.

Does not own which candidate is shown.
-/

set_option autoImplicit false

namespace ConceptScript

/-! ## Entries -/

namespace ByType

variable {α : Type}

theorem find?_cons (name other : String) (value : α) (later : ByType α) :
    find? ((name, value) :: later) other =
      if other = name then some value else later.find? other := by
  unfold find?
  by_cases same : other = name
  · simp [same]
  · have isOther : (other == name) = false := by simpa using same
    rw [List.lookup_cons, isOther, if_neg same]

theorem find?_record (entries : ByType α) (name other : String) (value : α) :
    (entries.record name value).find? other =
      if other = name then some value else entries.find? other := by
  induction entries with
  | nil => exact find?_cons ..
  | cons entry later inductionHypothesis =>
    obtain ⟨known, entry⟩ := entry
    rw [record, find?_cons]
    by_cases isEntry : known = name
    · rw [if_pos isEntry, find?_cons, isEntry]
      by_cases same : other = name <;> simp [same]
    · rw [if_neg isEntry, find?_cons, inductionHypothesis]
      by_cases same : other = name
      · simp [same, Ne.symm isEntry]
      · simp [same]

/-- Records something of each read under its type, one read after the other. -/
def recordAll (value : Read → α) (reads : List Read) (entries : ByType α) : ByType α :=
  reads.foldl (fun entries read => entries.record read.typeName (value read)) entries

/-- The entry of a type is that of its last read, and the old one if there is no read of it. -/
theorem find?_recordAll
    (value : Read → α) (reads : List Read) (entries : ByType α) (name : String) :
    (recordAll value reads entries).find? name =
      ((reads.filter fun read => read.typeName = name).map value).getLast?.or
        (entries.find? name) := by
  induction reads generalizing entries with
  | nil => rfl
  | cons read reads inductionHypothesis =>
    rw [recordAll, List.foldl_cons]
    refine (inductionHypothesis _).trans ?_
    rw [find?_record, List.filter_cons]
    by_cases isOwn : read.typeName = name
    · rw [if_pos isOwn.symm, if_pos (decide_eq_true isOwn), List.map_cons, List.getLast?_cons]
      cases ((reads.filter fun read => read.typeName = name).map value).getLast? <;> rfl
    · rw [if_neg (Ne.symm isOwn), if_neg (by simpa using isOwn)]

end ByType

/-! ## The last token in front of the offset -/

/-- A token lies at or before the last one in front of the offset exactly where it starts in front
of the offset. -/
theorem Target.any_before_eq
    {tokens : List Token} {token : Token}
    (ordered : tokens.Pairwise fun earlier later => earlier.start < later.start)
    (isToken : token ∈ tokens) (offset : Nat) :
    ((Target.ofTokens tokens offset).before.any fun before => token.start ≤ before.start) =
      decide (token.start ≤ offset) := by
  have reversed : tokens.reverse.Pairwise fun later earlier => earlier.start < later.start :=
    List.pairwise_reverse.2 ordered
  have isMember := List.mem_reverse.2 isToken
  show ((tokens.reverse.find? fun token => token.start ≤ offset).any _) = _
  cases isFound : tokens.reverse.find? fun token => token.start ≤ offset with
  | none =>
    have notBefore := List.find?_eq_none.1 isFound token isMember
    simpa using notBefore
  | some before =>
    obtain ⟨isBefore, later, earlier, isTokens, allBehind⟩ :=
      List.find?_eq_some_iff_append.1 isFound
    rw [decide_eq_true_eq] at isBefore
    rw [isTokens, List.mem_append, List.mem_cons] at isMember
    rw [isTokens, List.pairwise_append, List.pairwise_cons] at reversed
    rw [Option.any_some, decide_eq_decide]
    constructor
    · intro notBehind
      omega
    · intro startsBefore
      rcases isMember with isLater | rfl | isEarlier
      · have isBehind := allBehind token isLater
        simp only [Bool.not_eq_true', decide_eq_false_iff_not] at isBehind
        omega
      · exact Nat.le_refl _
      · exact Nat.le_of_lt (reversed.2.1.1 token isEarlier)

/-! ## Entries after events -/

namespace Cursor

/-- The read of an event that a cursor takes note of. -/
def noted? (target : Target) (event : Event) : Option Read :=
  event.read?.filter fun read => target.before.any fun before => read.last.start ≤ before.start

theorem last_onKeyword
    (target : Target) (cursor : Cursor) (reader : Reader) (word : Option String) :
    (cursor.onKeyword target reader word).lastTokens = cursor.lastTokens ∧
      (cursor.onKeyword target reader word).lastMembers = cursor.lastMembers := by
  unfold onKeyword
  split
  · exact ⟨rfl, rfl⟩
  · split
    · split <;> exact ⟨rfl, rfl⟩
    · exact ⟨rfl, rfl⟩

theorem exists_context_onContext
    (target : Target) (cursor : Cursor) (reader : Reader) (stack : List Concept) :
    ∃ context, cursor.onContext target reader stack = { cursor with context := context } := by
  unfold onContext
  split
  · split
    · exact ⟨stack, rfl⟩
    · exact ⟨cursor.context, rfl⟩
  · exact ⟨cursor.context, rfl⟩

/-- Only a member that is read changes the entries, and only those of its type: both its last token
and its last member. -/
theorem last_step (target : Target) (cursor : Cursor) (event : Event) :
    (cursor.step target event).lastTokens =
        ByType.recordAll Read.last (noted? target event).toList cursor.lastTokens ∧
      (cursor.step target event).lastMembers =
        ByType.recordAll Read.member (noted? target event).toList cursor.lastMembers := by
  cases event with
  | keyword reader word => exact last_onKeyword target cursor reader word
  | opened reader stack =>
    obtain ⟨context, isCursor⟩ := exists_context_onContext target cursor reader stack
    rw [step, isCursor]
    exact ⟨rfl, rfl⟩
  | closed reader stack =>
    obtain ⟨context, isCursor⟩ := exists_context_onContext target cursor reader stack
    rw [step, isCursor]
    exact ⟨rfl, rfl⟩
  | member reader concept member value =>
    cases value with
    | error fault =>
      simp only [step, onMember]
      split <;> simp [noted?, Event.read?, Except.isOk, Except.toBool, ByType.recordAll]
    | ok value =>
      simp only [step, onMember, noted?, Event.read?]
      cases isLast : reader.last? with
      | none => exact ⟨rfl, rfl⟩
      | some last =>
        cases isBefore : target.before with
        | none => exact ⟨rfl, rfl⟩
        | some before =>
          by_cases isNoted : last.start ≤ before.start <;>
            simp [isNoted, Option.filter_some, Except.isOk, Except.toBool, ByType.recordAll]

theorem last_foldl (target : Target) (events : List Event) (cursor : Cursor) :
    (events.foldl (step target) cursor).lastTokens =
        ByType.recordAll Read.last (events.filterMap (noted? target)) cursor.lastTokens ∧
      (events.foldl (step target) cursor).lastMembers =
        ByType.recordAll Read.member (events.filterMap (noted? target)) cursor.lastMembers := by
  induction events generalizing cursor with
  | nil => exact ⟨rfl, rfl⟩
  | cons event events inductionHypothesis =>
    obtain ⟨ofTokens, ofMembers⟩ := last_step target cursor event
    rw [List.foldl_cons, (inductionHypothesis _).1, (inductionHypothesis _).2, ofTokens, ofMembers]
    cases isNoted : noted? target event with
    | none =>
      rw [List.filterMap_cons_none isNoted]
      exact ⟨rfl, rfl⟩
    | some read =>
      rw [List.filterMap_cons_some isNoted]
      exact ⟨rfl, rfl⟩

/-- The members of a type that are read up to an offset. -/
def readsUpTo (offset : Nat) (name : String) (events : List Event) : List Read :=
  (events.filterMap Event.read?).filter fun read =>
    read.typeName = name && read.last.start ≤ offset

/-- A cursor takes note of what is read up to its offset. -/
theorem filter_noted?
    {tokens : List Token} {events : List Event}
    (ordered : tokens.Pairwise fun earlier later => earlier.start < later.start)
    (inTokens : ∀ read ∈ events.filterMap Event.read?, read.last ∈ tokens)
    (offset : Nat) (name : String) :
    (events.filterMap (noted? (.ofTokens tokens offset))).filter
        (fun read => read.typeName = name) = readsUpTo offset name events := by
  have isFiltered : events.filterMap (noted? (.ofTokens tokens offset)) =
      (events.filterMap Event.read?).filter fun read =>
        (Target.ofTokens tokens offset).before.any fun before => read.last.start ≤ before.start :=
    List.filter_filterMap.symm
  rw [readsUpTo, ← List.filter_filter, isFiltered]
  congr 1
  apply List.filter_congr
  intro read isRead
  exact Target.any_before_eq ordered (inTokens read isRead) offset

/-- A cursor has of each type the last token and the member that were read last up to the offset. -/
theorem find?_ofEvents
    {tokens : List Token} {events : List Event}
    (ordered : tokens.Pairwise fun earlier later => earlier.start < later.start)
    (inTokens : ∀ read ∈ events.filterMap Event.read?, read.last ∈ tokens)
    (offset : Nat) (name : String) :
    let cursor := ofEvents (.ofTokens tokens offset) events
    cursor.lastTokens.find? name = ((readsUpTo offset name events).map Read.last).getLast? ∧
      cursor.lastMembers.find? name =
        ((readsUpTo offset name events).map Read.member).getLast? := by
  obtain ⟨ofTokens, ofMembers⟩ := last_foldl (.ofTokens tokens offset) events {}
  intro cursor
  rw [← filter_noted? ordered inTokens]
  constructor
  · refine (congrArg (ByType.find? · name) ofTokens).trans ?_
    rw [ByType.find?_recordAll]
    exact Option.or_none
  · refine (congrArg (ByType.find? · name) ofMembers).trans ?_
    rw [ByType.find?_recordAll]
    exact Option.or_none

/-! ## Candidates -/

theorem mem_addCandidate
    {candidates : List Concept} {concept other : Concept}
    (isCandidate : other ∈ addCandidate candidates concept) :
    other ∈ candidates ∨ other = concept := by
  unfold addCandidate at isCandidate
  split at isCandidate
  · exact .inl isCandidate
  · simpa using isCandidate

theorem candidates_step
    {target : Target} {cursor : Cursor} {event : Event} {concept : Concept}
    (isCandidate : concept ∈ (cursor.step target event).candidates) :
    concept ∈ cursor.candidates ∨ event.concept? = some concept := by
  cases event with
  | keyword reader word =>
    left
    simp only [step, onKeyword] at isCandidate
    split at isCandidate
    · exact isCandidate
    · split at isCandidate
      · split at isCandidate
        · cases isCandidate
        · exact isCandidate
      · exact isCandidate
  | opened reader stack =>
    obtain ⟨context, isCursor⟩ := exists_context_onContext target cursor reader stack
    rw [step, isCursor] at isCandidate
    exact .inl isCandidate
  | closed reader stack =>
    obtain ⟨context, isCursor⟩ := exists_context_onContext target cursor reader stack
    rw [step, isCursor] at isCandidate
    exact .inl isCandidate
  | member reader other member value =>
    simp only [step, onMember] at isCandidate
    split at isCandidate
    · dsimp only at isCandidate
      split at isCandidate
      · rcases mem_addCandidate isCandidate with isKnown | rfl
        · exact .inl isKnown
        · exact .inr rfl
      · exact .inl isCandidate
    · exact .inl isCandidate

/-- A candidate is a concept for which a member was to be read. -/
theorem exists_event_of_candidate
    {target : Target} {events : List Event} {concept : Concept}
    (isCandidate : concept ∈ (ofEvents target events).candidates) :
    ∃ event ∈ events, event.concept? = some concept := by
  suffices folded : ∀ cursor : Cursor, concept ∈ (events.foldl (step target) cursor).candidates →
      concept ∈ cursor.candidates ∨ ∃ event ∈ events, event.concept? = some concept by
    exact (folded {} isCandidate).resolve_left List.not_mem_nil
  clear isCandidate
  induction events with
  | nil => exact fun _ isCandidate => .inl isCandidate
  | cons event events inductionHypothesis =>
    intro cursor isCandidate
    rcases inductionHypothesis _ isCandidate with afterEvent | ⟨later, isLater, isConcept⟩
    · rcases candidates_step afterEvent with isKnown | isConcept
      · exact .inl isKnown
      · exact .inr ⟨event, List.mem_cons_self, isConcept⟩
    · exact .inr ⟨later, List.mem_cons_of_mem event isLater, isConcept⟩

theorem nodup_addCandidate
    {candidates : List Concept}
    (distinct : (candidates.map Concept.typeName).Nodup) (concept : Concept) :
    ((addCandidate candidates concept).map Concept.typeName).Nodup := by
  unfold addCandidate
  split
  · exact distinct
  · next notThere =>
    rw [Bool.not_eq_true, List.any_eq_false] at notThere
    rw [List.map_append, List.nodup_append]
    refine ⟨distinct, List.nodup_singleton _, ?_⟩
    rintro name isName other isOther rfl
    obtain ⟨candidate, isCandidate, rfl⟩ := List.mem_map.1 isName
    have sameName : candidate.typeName = concept.typeName := List.mem_singleton.1 isOther
    exact notThere candidate isCandidate (beq_iff_eq.2 sameName)

theorem nodup_step
    {cursor : Cursor}
    (distinct : (cursor.candidates.map Concept.typeName).Nodup) (target : Target)
    (event : Event) :
    ((cursor.step target event).candidates.map Concept.typeName).Nodup := by
  cases event with
  | keyword reader word =>
    simp only [step, onKeyword]
    split
    · exact distinct
    · split
      · split
        · exact List.nodup_nil
        · exact distinct
      · exact distinct
  | opened reader stack =>
    obtain ⟨context, isCursor⟩ := exists_context_onContext target cursor reader stack
    rw [step, isCursor]
    exact distinct
  | closed reader stack =>
    obtain ⟨context, isCursor⟩ := exists_context_onContext target cursor reader stack
    rw [step, isCursor]
    exact distinct
  | member reader concept member value =>
    simp only [step, onMember]
    split
    · dsimp only
      split
      · exact nodup_addCandidate distinct concept
      · exact distinct
    · exact distinct

/-- No two candidates of a cursor have the same type. -/
theorem nodup_ofEvents (target : Target) (events : List Event) :
    ((ofEvents target events).candidates.map Concept.typeName).Nodup := by
  suffices folded : ∀ cursor : Cursor, (cursor.candidates.map Concept.typeName).Nodup →
      ((events.foldl (step target) cursor).candidates.map Concept.typeName).Nodup by
    exact folded {} List.nodup_nil
  induction events with
  | nil => exact fun _ distinct => distinct
  | cons event events inductionHypothesis =>
    exact fun cursor distinct => inductionHypothesis _ (nodup_step distinct target event)

end Cursor

/-! ## The occurrence of the keyword -/

namespace Occurrence

/-- The occurrence that an event begins, if it begins one. -/
def begunBy : Event → List Event → List Occurrence
  | .keyword reader (some _), later => [⟨reader.peek?, readsAhead later⟩]
  | .keyword _ none, _ | .member _ _ _ _, _ | .opened _ _, _ | .closed _ _, _ => []

theorem ofEvents_cons (event : Event) (later : List Event) :
    ofEvents (event :: later) = begunBy event later ++ ofEvents later := by
  cases event with
  | keyword reader word => cases word <;> rfl
  | member reader concept member value => rfl
  | opened reader stack => rfl
  | closed reader stack => rfl

/-- The keyword that is active after an event is the one that the event is about, or the one that
was active before. -/
theorem keyword_of_step
    {offset : Nat} {event : Event} {construct : Construct} {active : Token}
    (isActive : (Construct.step offset construct event).keyword = some active)
    (later : List Event) :
    ((begunBy event later).filter (startsBefore offset)).getLast?.elim construct.keyword keyword =
      some active := by
  cases event with
  | keyword reader word =>
    rw [Construct.step] at isActive
    cases word with
    | none =>
      show construct.keyword = some active
      split at isActive
      · split at isActive
        · cases isActive
        · exact isActive
      · exact isActive
    | some word =>
      have isBoundary : Cursor.boundary? reader (some word) = reader.peek? := rfl
      rw [isBoundary] at isActive
      cases isPeek : reader.peek? with
      | none =>
        rw [isPeek] at isActive
        simpa [begunBy, startsBefore, isPeek] using isActive
      | some token =>
        rw [isPeek] at isActive
        by_cases isBefore : token.start ≤ offset <;>
          simpa [begunBy, startsBefore, isPeek, isBefore] using isActive
  | member reader concept member value => exact isActive
  | opened reader stack =>
    rw [Construct.step, Construct.keyword_onContext] at isActive
    exact isActive
  | closed reader stack =>
    rw [Construct.step, Construct.keyword_onContext] at isActive
    exact isActive

/-- The active keyword is that of the last occurrence that starts in front of the offset. -/
theorem keyword_of_after
    {offset : Nat} {events : List Event} {construct : Construct} {active : Token}
    (isActive : (Construct.after offset events construct).keyword = some active) :
    ((ofEvents events).filter (startsBefore offset)).getLast?.elim construct.keyword keyword =
      some active := by
  induction events generalizing construct with
  | nil => exact isActive
  | cons event events inductionHypothesis =>
    rw [Construct.after_cons] at isActive
    have isLater := inductionHypothesis isActive
    rw [ofEvents_cons, List.filter_append, List.getLast?_append]
    cases isLast : ((ofEvents events).filter (startsBefore offset)).getLast? with
    | none =>
      rw [isLast] at isLater
      exact keyword_of_step isLater events
    | some own =>
      rw [isLast] at isLater
      exact isLater

end Occurrence

/-! ## The number of members that an entry stands for -/

theorem ConceptType.memberIndex?_of_isPrefix
    {type : ConceptType} {front : List Member} {member : Member}
    (distinct : (type.members.map Member.name).Nodup)
    (isPrefix : front ++ [member] <+: type.members) :
    type.memberIndex? member.name = some front.length := by
  obtain ⟨later, isMembers⟩ := isPrefix
  rw [← isMembers, List.append_assoc, List.map_append, List.nodup_append] at distinct
  have notEarlier : front.findIdx? (fun declared => declared.name == member.name) = none := by
    apply List.findIdx?_eq_none_iff.2
    intro other isOther
    have different := distinct.2.2 other.name (List.mem_map.2 ⟨other, isOther, rfl⟩) member.name
      (by simp)
    simpa using different
  rw [memberIndex?, ← isMembers, List.append_assoc, List.findIdx?_append, notEarlier]
  simp [List.findIdx?_cons]

namespace Occurrence

/-- The number of members of a type that are read in the last occurrence in which any is. -/
def lastReadCount (type : ConceptType) (offset : Nat) : List Occurrence → Nat
  | [] => 0
  | occurrence :: later =>
    if lastReadCount type offset later = 0 then occurrence.readCount type offset
    else lastReadCount type offset later

variable {type : ConceptType} {offset : Nat}

theorem lastReadCount_eq_zero_iff (occurrences : List Occurrence) :
    lastReadCount type offset occurrences = 0 ↔
      ∀ occurrence ∈ occurrences, occurrence.readCount type offset = 0 := by
  induction occurrences with
  | nil => simp [lastReadCount]
  | cons occurrence later inductionHypothesis =>
    rw [lastReadCount, List.forall_mem_cons, ← inductionHypothesis]
    split <;> simp_all

theorem lastReadCount_append (front back : List Occurrence) :
    lastReadCount type offset (front ++ back) =
      if lastReadCount type offset back = 0 then lastReadCount type offset front
      else lastReadCount type offset back := by
  induction front with
  | nil =>
    rw [List.nil_append, lastReadCount]
    split <;> simp_all
  | cons occurrence front inductionHypothesis =>
    rw [List.cons_append, lastReadCount, lastReadCount, inductionHypothesis]
    split <;> simp_all

/-- Occurrences in which nothing is read do not matter. -/
theorem lastReadCount_filter
    {occurrences : List Occurrence} {p : Occurrence → Bool}
    (nothing : ∀ occurrence ∈ occurrences, ¬ p occurrence = true →
      occurrence.readCount type offset = 0) :
    lastReadCount type offset (occurrences.filter p) = lastReadCount type offset occurrences := by
  induction occurrences with
  | nil => rfl
  | cons occurrence later inductionHypothesis =>
    obtain ⟨own, laterNothing⟩ := List.forall_mem_cons.1 nothing
    have sameLater := inductionHypothesis laterNothing
    by_cases isKept : p occurrence = true
    · rw [List.filter_cons_of_pos isKept, lastReadCount, lastReadCount, sameLater]
    · rw [List.filter_cons_of_neg isKept, sameLater, lastReadCount, own isKept]
      split
      · assumption
      · rfl

/-- The last read of an occurrence tells how many there are. -/
theorem index_of_last_read
    {reads : List Read} {last : Read}
    (distinct : (type.members.map Member.name).Nodup)
    (isPrefix : reads.map Read.member <+: type.members)
    (isLast : reads.getLast? = some last) :
    (type.memberIndex? last.member.name).elim 0 (· + 1) = reads.length := by
  obtain ⟨front, rfl⟩ := List.getLast?_eq_some_iff.1 isLast
  rw [List.map_append, List.map_singleton] at isPrefix
  rw [ConceptType.memberIndex?_of_isPrefix distinct isPrefix]
  simp

/-- Of all reads of a type the last one tells how many there are in its occurrence. -/
theorem index_of_last_read_all
    {occurrences : List Occurrence}
    (distinct : (type.members.map Member.name).Nodup)
    (isPrefix : ∀ occurrence ∈ occurrences,
      (occurrence.readsOf type offset).map Read.member <+: type.members) :
    ((occurrences.flatMap fun occurrence => occurrence.readsOf type offset).getLast?.elim 0
      fun last => (type.memberIndex? last.member.name).elim 0 (· + 1)) =
        lastReadCount type offset occurrences := by
  induction occurrences with
  | nil => rfl
  | cons occurrence later inductionHypothesis =>
    obtain ⟨ownPrefix, laterPrefix⟩ := List.forall_mem_cons.1 isPrefix
    have laterCount := inductionHypothesis laterPrefix
    rw [List.flatMap_cons, List.getLast?_append, lastReadCount]
    -- Where a later occurrence reads any member, the last read of all is one of its reads.
    by_cases noneLater : lastReadCount type offset later = 0
    · have nothing : later.flatMap (fun other => other.readsOf type offset) = [] := by
        apply List.flatMap_eq_nil_iff.2
        intro other isLater
        apply List.length_eq_zero_iff.1
        exact (lastReadCount_eq_zero_iff later).1 noneLater other isLater
      rw [if_pos noneLater, nothing, readCount]
      cases isLast : (occurrence.readsOf type offset).getLast? with
      | none =>
        rw [List.getLast?_eq_none_iff.1 isLast]
        rfl
      | some last => exact index_of_last_read distinct ownPrefix isLast
    · rw [if_neg noneLater, ← laterCount]
      rw [← laterCount] at noneLater
      cases isLast : (later.flatMap fun other => other.readsOf type offset).getLast? with
      | none => simp [isLast] at noneLater
      | some last => rfl

/-- What a cursor takes a type to be read is what was read of it in the last occurrence in which any
member of it was. -/
theorem activeMember_ofEvents
    {catalog : Catalog} {tokens : List Token} {candidate : Concept}
    (ordered : tokens.Pairwise fun earlier later => earlier.start < later.start)
    (isType : candidate.type ∈ catalog.types) (stop offset : Nat) :
    (Cursor.ofEvents (.ofTokens tokens offset) (catalog.parse tokens stop).events).activeMember
        candidate =
      lastReadCount candidate.type offset (ofEvents (catalog.parse tokens stop).events) := by
  have grouped := grouped_parse catalog tokens stop
  have allReads := filterMap_read? (catalog.parse tokens stop).events
  rw [grouped.nothingAhead, List.nil_append] at allReads
  have inTokens : ∀ read ∈ (catalog.parse tokens stop).events.filterMap Event.read?,
      read.last ∈ tokens := by
    intro read isRead
    rw [allReads] at isRead
    obtain ⟨occurrence, isOccurrence, ofOccurrence⟩ := List.mem_flatMap.1 isRead
    exact ((grouped.occurs occurrence isOccurrence).keyword_before_last ordered ofOccurrence).1
  have isEntry : (Cursor.ofEvents (.ofTokens tokens offset)
        (catalog.parse tokens stop).events).lastMembers.find? candidate.typeName =
      ((ofEvents (catalog.parse tokens stop).events).flatMap fun occurrence =>
        occurrence.readsOf candidate.type offset).getLast?.map Read.member := by
    rw [(Cursor.find?_ofEvents ordered inTokens offset _).2, Cursor.readsUpTo, allReads,
      List.filter_flatMap, List.getLast?_map]
    rfl
  have isCount := index_of_last_read_all (Catalog.nodup_members isType)
    fun occurrence isOccurrence =>
      (grouped.occurs occurrence isOccurrence).members_isPrefix ordered isType offset
  rw [Cursor.activeMember, isEntry, ← isCount]
  cases ((ofEvents (catalog.parse tokens stop).events).flatMap fun occurrence =>
    occurrence.readsOf candidate.type offset).getLast? <;> rfl

end Occurrence

end ConceptScript
