import ConceptScript.Proofs.Script.Locality
import ConceptScript.Proofs.Script.Reading

/-!
Contract: the occurrences of concepts in a script, as they are reported.

An occurrence is a keyword with the members that the attempts at its types read. An attempt reads
the first members of its type in the order in which they are declared, each one behind the one
before. So the members of a type that are read up to an offset are the first ones too, and their
number says which one they end with.

Owns the split of events into occurrences, and what is read in one of them.

Does not own what is concluded from the events.
-/

set_option autoImplicit false

namespace ConceptScript

/-- A member that has been read, with the last token of its value and the type it belongs to. -/
structure Read where
  typeName : String
  last : Token
  member : Member
  deriving DecidableEq

def Event.read? : Event → Option Read
  | .member reader concept declared (.ok _) =>
    reader.last?.map fun last => ⟨concept.typeName, last, declared⟩
  | .member _ _ _ (.error _) | .keyword _ _ | .opened _ _ | .closed _ _ => none

/-- The concept that a member was to be read for. -/
def Event.concept? : Event → Option Concept
  | .member _ concept _ _ => some concept
  | .keyword _ _ | .opened _ _ | .closed _ _ => none

/-- An event that is neither about a keyword nor about a member. -/
def Event.IsPlain : Event → Prop
  | .keyword _ none | .opened _ _ | .closed _ _ => True
  | .keyword _ (some _) | .member _ _ _ _ => False

/-- A keyword, and the members that have been read behind it, whichever types they belong to. -/
structure Occurrence where
  keyword : Option Token
  reads : List Read
  deriving DecidableEq

namespace Occurrence

/-- What is read up to the next keyword. -/
def readsAhead : List Event → List Read
  | [] => []
  | .keyword _ (some _) :: _ => []
  | event :: later => event.read?.toList ++ readsAhead later

def ofEvents : List Event → List Occurrence
  | [] => []
  | .keyword reader (some _) :: later => ⟨reader.peek?, readsAhead later⟩ :: ofEvents later
  | _ :: later => ofEvents later

/-- The keyword starts at or before an offset. -/
def startsBefore (offset : Nat) (occurrence : Occurrence) : Bool :=
  occurrence.keyword.any fun keyword => keyword.start ≤ offset

/-- The members of a type that are read up to an offset. -/
def readsOf (occurrence : Occurrence) (type : ConceptType) (offset : Nat) : List Read :=
  occurrence.reads.filter fun read => read.typeName = type.name && read.last.start ≤ offset

/-- The number of members of a type whose last token starts at or before an offset. -/
def readCount (type : ConceptType) (offset : Nat) (occurrence : Occurrence) : Nat :=
  (occurrence.readsOf type offset).length

/-! ## Splitting events -/

/-- No read is lost. -/
theorem filterMap_read? (events : List Event) :
    events.filterMap Event.read? = readsAhead events ++ (ofEvents events).flatMap reads := by
  induction events with
  | nil => rfl
  | cons event events inductionHypothesis =>
    cases event with
    | keyword reader word => cases word <;> exact inductionHypothesis
    | member reader concept member value =>
      cases isRead : (Event.member reader concept member value).read? <;>
        simp [readsAhead, ofEvents, isRead, inductionHypothesis]
    | opened reader stack => exact inductionHypothesis
    | closed reader stack => exact inductionHypothesis

theorem readsAhead_members
    {members : List Event}
    (allMembers : ∀ event ∈ members, event.IsMember) (later : List Event) :
    readsAhead (members ++ later) = members.filterMap Event.read? ++ readsAhead later := by
  induction members with
  | nil => rfl
  | cons event members inductionHypothesis =>
    rw [List.forall_mem_cons] at allMembers
    obtain ⟨reader, concept, declared, value, rfl⟩ := allMembers.1.exists_eq
    cases isRead : (Event.member reader concept declared value).read? <;>
      simp [readsAhead, isRead, inductionHypothesis allMembers.2]

theorem ofEvents_members
    {members : List Event}
    (allMembers : ∀ event ∈ members, event.IsMember) (later : List Event) :
    ofEvents (members ++ later) = ofEvents later := by
  induction members with
  | nil => rfl
  | cons event members inductionHypothesis =>
    rw [List.forall_mem_cons] at allMembers
    obtain ⟨reader, concept, declared, value, rfl⟩ := allMembers.1.exists_eq
    exact inductionHypothesis allMembers.2

/-! ## Occurrences of a parse -/

theorem type_of_mem_readMembers
    {type : ConceptType} {values : List String} {members : List Member} {reader : Reader}
    {event : Event}
    (reported : event ∈ (Parse.readMembers type values members reader).1) :
    ∀ concept ∈ event.concept?, concept.type = type := by
  induction members generalizing values reader with
  | nil => cases reported
  | cons member members inductionHypothesis =>
    rw [Parse.readMembers] at reported
    split at reported
    · rcases List.mem_cons.1 reported with rfl | later
      · simp [Event.concept?]
      · exact inductionHypothesis later
    · obtain rfl := List.mem_singleton.1 reported
      simp [Event.concept?]

theorem exists_attempt_of_mem
    {catalog : Catalog} {stack : List Concept} {reader : Reader} {keyword : Token} {event : Event}
    (reported : event ∈ (Parse.attemptsAt catalog stack reader keyword).flatMap Prod.fst) :
    ∃ type ∈ catalog.types, event ∈ (Parse.attempt reader type).1 := by
  obtain ⟨attempted, isAttempt, isReported⟩ := List.mem_flatMap.1 reported
  obtain ⟨type, isTried, rfl⟩ := List.mem_map.1 isAttempt
  exact ⟨type, (List.mem_filter.1 (List.mem_filter.1 isTried).1).1, isReported⟩

/-- What is read where a concept is read. -/
def readsAt (catalog : Catalog) (stack : List Concept) (reader : Reader) (keyword : Token) :
    List Read :=
  ((Parse.attemptsAt catalog stack reader keyword).flatMap Prod.fst).filterMap Event.read?

/-- An occurrence whose keyword is one of the tokens. -/
inductive Occurs (catalog : Catalog) (tokens : List Token) : Occurrence → Prop where
  | intro {stack : List Concept} {reader : Reader} {keyword : Token} {tail : List Token}
      (isRest : reader.rest = keyword :: tail)
      (isTokens : reader.tokens = tokens) :
      Occurs catalog tokens ⟨some keyword, readsAt catalog stack reader keyword⟩

/-- Events that begin between two concepts: what is read is read behind a keyword, and for a type
of the catalog. -/
structure Grouped (catalog : Catalog) (tokens : List Token) (events : List Event) : Prop where
  nothingAhead : readsAhead events = []
  occurs : ∀ occurrence ∈ ofEvents events, Occurs catalog tokens occurrence
  known : ∀ event ∈ events, ∀ concept ∈ event.concept?, concept.type ∈ catalog.types

namespace Grouped

variable {catalog : Catalog} {tokens : List Token} {later : List Event}

theorem nil : Grouped catalog tokens [] :=
  ⟨rfl, by simp [ofEvents], by simp⟩

/-- Marks and blocks neither begin an occurrence nor add to one. -/
theorem plain (grouped : Grouped catalog tokens later) :
    ∀ {event : Event}, event.IsPlain → Grouped catalog tokens (event :: later)
  | .keyword _ none, _ | .opened _ _, _ | .closed _ _, _ =>
    ⟨grouped.nothingAhead, grouped.occurs,
      List.forall_mem_cons.2 ⟨by simp [Event.concept?], grouped.known⟩⟩

theorem readConcept
    {stack : List Concept} {reader : Reader} {keyword : Token} {tail : List Token}
    (grouped : Grouped catalog tokens later)
    (isRest : reader.rest = keyword :: tail)
    (isTokens : reader.tokens = tokens) :
    Grouped catalog tokens ((Parse.readConcept catalog stack reader keyword).1 ++ later) := by
  by_cases isText : keyword.isText = true
  · have isKeyword : reader.peek? = some keyword := by rw [Reader.peek?, isRest, List.head?_cons]
    have allMembers : ∀ event ∈ (Parse.attemptsAt catalog stack reader keyword).flatMap Prod.fst,
        event.IsMember := by
      intro event reported
      obtain ⟨type, -, isReported⟩ := exists_attempt_of_mem reported
      exact Parse.isMember_readMembers isReported
    rw [Parse.readConcept_of_isText isText, List.cons_append]
    refine ⟨rfl, ?_, List.forall_mem_cons.2 ⟨by simp [Event.concept?], ?_⟩⟩
    · intro occurrence isOccurrence
      rw [ofEvents, readsAhead_members allMembers, ofEvents_members allMembers,
        grouped.nothingAhead, List.append_nil, isKeyword] at isOccurrence
      rcases List.mem_cons.1 isOccurrence with rfl | isLater
      · exact .intro isRest isTokens
      · exact grouped.occurs occurrence isLater
    · intro event reported concept isConcept
      rcases List.mem_append.1 reported with ofConcept | isLater
      · obtain ⟨type, isType, isReported⟩ := exists_attempt_of_mem ofConcept
        rw [type_of_mem_readMembers isReported concept isConcept]
        exact isType
      · exact grouped.known event isLater concept isConcept
  · rw [Parse.readConcept, if_neg isText]
    exact grouped.plain trivial

theorem readConcept_nil
    {stack : List Concept} {reader : Reader} {keyword : Token} {tail : List Token}
    (isRest : reader.rest = keyword :: tail) :
    Grouped catalog reader.tokens (Parse.readConcept catalog stack reader keyword).1 := by
  rw [← List.append_nil (Parse.readConcept catalog stack reader keyword).1]
  exact nil.readConcept isRest rfl

theorem halts
    {state : Parse.State} {parse : Parse}
    (halts : Parse.Halts catalog state parse) :
    Grouped catalog state.reader.tokens parse.events := by
  cases halts with
  | finished => exact nil
  | unclosed => exact nil
  | unopened => exact nil
  | unread isRest => exact readConcept_nil isRest
  | unended isRest => exact readConcept_nil isRest

theorem step
    {state next : Parse.State} {events : List Event} {concepts : List Concept}
    (step : Parse.Step catalog state events concepts next)
    (grouped : Grouped catalog state.reader.tokens later) :
    Grouped catalog state.reader.tokens (events ++ later) := by
  cases step with
  | closes => exact grouped.plain trivial
  | ends isRest =>
    rw [List.append_assoc]
    refine readConcept (plain grouped ?_) isRest rfl
    trivial
  | opens isRest =>
    rw [List.append_assoc]
    refine readConcept (plain (plain grouped ?_) ?_) isRest rfl
    · trivial
    · trivial

theorem steps
    {state halted : Parse.State} {events : List Event} {concepts : List Concept}
    (steps : Parse.Steps catalog state events concepts halted)
    (grouped : Grouped catalog state.reader.tokens later) :
    Grouped catalog state.reader.tokens (events ++ later) := by
  induction steps with
  | refl => exact grouped
  | head step _ inductionHypothesis =>
    rw [List.append_assoc]
    apply Grouped.step step
    -- A step moves tokens and adds none, so the hypothesis is about the same tokens.
    rw [← step.reaches.tokens_eq] at grouped ⊢
    exact inductionHypothesis grouped

end Grouped

theorem grouped_parse (catalog : Catalog) (tokens : List Token) (stop : Nat) :
    Grouped catalog tokens (catalog.parse tokens stop).events := by
  obtain ⟨events, concepts, halted, parse, steps, halts⟩ :=
    Parse.exists_steps_halts catalog (.initial tokens stop)
  have sameTokens : halted.reader.tokens = tokens := steps.reaches.tokens_eq
  have haltGrouped := Grouped.halts halts
  rw [sameTokens] at haltGrouped
  rw [← Parse.parse_initial, Parse.parse_eq_after steps halts]
  exact Grouped.steps steps haltGrouped

/-! ## Members that an attempt reads -/

/-- The first members of a type, the values of which end in order in the tokens. -/
structure InOrder (type : ConceptType) (members : List Member) (tokens : List Token)
    (reads : List Read) : Prop where
  sameType : ∀ read ∈ reads, read.typeName = type.name
  isPrefix : reads.map Read.member <+: members
  inTokens : (reads.map Read.last).Sublist tokens

theorem inOrder_nil (type : ConceptType) (members : List Member) (tokens : List Token) :
    InOrder type members tokens [] :=
  ⟨by simp, List.nil_prefix, List.nil_sublist tokens⟩

theorem last?_of_readMember
    {reader next : Reader} {kind : Member.Kind} {value : String}
    (isRead : reader.readMember kind = (.ok value, next)) :
    ∃ last front, next.last? = some last ∧ reader.rest = front ++ last :: next.rest := by
  obtain ⟨tokens, after, isRest, rfl, argument⟩ := Reader.argument_of_readMember isRead
  have notEmpty : tokens ≠ [] := by
    cases argument with
    | text => exact List.cons_ne_nil _ _
    | reference path => cases path <;> exact List.cons_ne_nil _ _
  obtain ⟨front, last, rfl⟩ := List.eq_nil_or_concat tokens |>.resolve_left notEmpty
  exact ⟨last, front, by simp [Reader.last?], by simp [isRest]⟩

theorem inOrder_readMembers
    (type : ConceptType) (values : List String) (members : List Member) (reader : Reader) :
    InOrder type members reader.rest
      ((Parse.readMembers type values members reader).1.filterMap Event.read?) := by
  induction members generalizing values reader with
  | nil => exact inOrder_nil ..
  | cons member members inductionHypothesis =>
    rw [Parse.readMembers]
    split
    · next value next isRead =>
      obtain ⟨last, front, isLast, isRest⟩ := last?_of_readMember isRead
      obtain ⟨sameType, isPrefix, inTokens⟩ := inductionHypothesis (values ++ [value]) next
      have isReported : (Event.member next ⟨type, values ++ [value]⟩ member (.ok value)).read? =
          some ⟨type.name, last, member⟩ := by
        simp [Event.read?, isLast, Concept.typeName]
      rw [List.filterMap_cons_some isReported]
      refine ⟨?_, ?_, ?_⟩
      · intro read isFirst
        rcases List.mem_cons.1 isFirst with rfl | isLater
        · rfl
        · exact sameType read isLater
      · exact (List.prefix_cons_inj member).2 isPrefix
      · rw [isRest]
        exact (inTokens.cons_cons last).trans (List.sublist_append_right front _)
    · exact inOrder_nil ..

/-- What holds only in front of some point of an ordered list holds of its first elements. -/
theorem filter_isPrefix
    {α : Type} {p : α → Bool} {l : List α}
    (ordered : l.Pairwise fun earlier later => p later = true → p earlier = true) :
    l.filter p <+: l := by
  induction l with
  | nil => exact List.nil_prefix
  | cons first later inductionHypothesis =>
    obtain ⟨isFirst, laterOrdered⟩ := List.pairwise_cons.1 ordered
    by_cases holds : p first = true
    · rw [List.filter_cons_of_pos holds]
      exact (List.prefix_cons_inj first).2 (inductionHypothesis laterOrdered)
    · have nothing : (first :: later).filter p = [] := by
        rw [List.filter_cons_of_neg holds]
        apply List.filter_eq_nil_iff.2
        intro other member otherHolds
        exact holds (isFirst other member otherHolds)
      rw [nothing]
      exact List.nil_prefix

/-- The reads up to an offset are the first ones. -/
theorem InOrder.upTo
    {type : ConceptType} {members : List Member} {tokens : List Token} {reads : List Read}
    (inOrder : InOrder type members tokens reads)
    (ordered : tokens.Pairwise fun earlier later => earlier.start < later.start) (offset : Nat) :
    InOrder type members tokens (reads.filter fun read => read.last.start ≤ offset) := by
  have isPrefix : (reads.filter fun read => read.last.start ≤ offset) <+: reads := by
    apply filter_isPrefix
    refine (List.pairwise_map.1 (ordered.sublist inOrder.inTokens)).imp ?_
    intro earlier later isBefore
    simp only [decide_eq_true_eq]
    omega
  refine ⟨?_, ?_, ?_⟩
  · intro read isRead
    exact inOrder.sameType read (List.mem_filter.1 isRead).1
  · exact (isPrefix.map Read.member).trans inOrder.isPrefix
  · exact (isPrefix.sublist.map Read.last).trans inOrder.inTokens

/-! ## Members that are read in an occurrence -/

theorem readsAt_eq
    (catalog : Catalog) (stack : List Concept) (reader : Reader) (keyword : Token) :
    readsAt catalog stack reader keyword =
      ((catalog.typesFor keyword.value).filter (Parse.applicable stack)).flatMap
        fun type => (Parse.attempt reader type).1.filterMap Event.read? := by
  simp [readsAt, Parse.attemptsAt, List.filterMap_flatMap, List.flatMap_map]

theorem inOrder_attempt
    {reader : Reader} {keyword : Token} {tail : List Token}
    (isRest : reader.rest = keyword :: tail) (type : ConceptType) :
    InOrder type type.members tail ((Parse.attempt reader type).1.filterMap Event.read?) := by
  have isTail : reader.advance.rest = tail := by simp [Reader.advance, isRest]
  rw [← isTail]
  exact inOrder_readMembers ..

/-- Reads of other types do not count. -/
theorem filter_name_eq_nil
    {types : List ConceptType} {readsFor : ConceptType → List Read} {name : String}
    (sameType : ∀ other, ∀ read ∈ readsFor other, read.typeName = other.name)
    (otherName : name ∉ types.map ConceptType.name) (p : Read → Bool) :
    (types.flatMap readsFor).filter (fun read => read.typeName = name && p read) = [] := by
  apply List.filter_eq_nil_iff.2
  intro read isRead holds
  obtain ⟨other, isOther, isReadFor⟩ := List.mem_flatMap.1 isRead
  obtain ⟨isName, -⟩ := Bool.and_eq_true_iff.1 holds
  rw [sameType other read isReadFor, decide_eq_true_eq] at isName
  exact otherName (List.mem_map.2 ⟨other, isOther, isName⟩)

/-- Of several types, each with its reads, at most one has reads of a name. -/
theorem filter_name_cases
    {types : List ConceptType} {readsFor : ConceptType → List Read}
    (sameType : ∀ other, ∀ read ∈ readsFor other, read.typeName = other.name)
    (distinct : (types.map ConceptType.name).Nodup) (name : String) (p : Read → Bool) :
    (types.flatMap readsFor).filter (fun read => read.typeName = name && p read) = [] ∨
      ∃ type ∈ types, type.name = name ∧
        (types.flatMap readsFor).filter (fun read => read.typeName = name && p read) =
          (readsFor type).filter p := by
  induction types with
  | nil => exact .inl rfl
  | cons first types inductionHypothesis =>
    obtain ⟨notRepeated, laterDistinct⟩ := List.nodup_cons.1 distinct
    rw [List.flatMap_cons, List.filter_append]
    by_cases isFirst : first.name = name
    · right
      refine ⟨first, List.mem_cons_self, isFirst, ?_⟩
      have onlyFirst := filter_name_eq_nil sameType (isFirst ▸ notRepeated) p
      rw [onlyFirst, List.append_nil]
      apply List.filter_congr
      intro read isRead
      simp [sameType first read isRead, isFirst]
    · have notFirst :
          (readsFor first).filter (fun read => read.typeName = name && p read) = [] := by
        apply List.filter_eq_nil_iff.2
        intro read isRead
        simp [sameType first read isRead, isFirst]
      rw [notFirst, List.nil_append]
      rcases inductionHypothesis laterDistinct with nothing | ⟨type, isType, isName, isFound⟩
      · exact .inl nothing
      · exact .inr ⟨type, List.mem_cons_of_mem first isType, isName, isFound⟩

namespace Occurs

variable {catalog : Catalog} {tokens : List Token} {occurrence : Occurrence}

/-- In one occurrence, the members of a type that are read up to an offset are its first ones. -/
theorem members_isPrefix
    (occurs : Occurs catalog tokens occurrence)
    (ordered : tokens.Pairwise fun earlier later => earlier.start < later.start)
    {type : ConceptType}
    (isType : type ∈ catalog.types) (offset : Nat) :
    (occurrence.readsOf type offset).map Read.member <+: type.members := by
  cases occurs with
  | @intro stack reader keyword tail isRest isTokens =>
    rw [readsOf, readsAt_eq]
    -- All types of the keyword report their members here; the name tells them apart.
    have distinct : (((catalog.typesFor keyword.value).filter (Parse.applicable stack)).map
        ConceptType.name).Nodup :=
      catalog.nodup_names.sublist ((List.filter_sublist.trans List.filter_sublist).map _)
    rcases filter_name_cases (fun other => (inOrder_attempt isRest other).sameType) distinct
        type.name (fun read => read.last.start ≤ offset) with
      nothing | ⟨other, isTried, sameName, isFound⟩
    · rw [nothing]
      exact List.nil_prefix
    · have isOther : other ∈ catalog.types :=
        (List.mem_filter.1 (List.mem_filter.1 isTried).1).1
      obtain rfl := Catalog.eq_of_name_eq isOther isType sameName
      have tailOrdered : tail.Pairwise fun earlier later => earlier.start < later.start := by
        rw [← isTokens, Reader.tokens, isRest] at ordered
        exact (List.pairwise_cons.1 (List.pairwise_append.1 ordered).2.1).2
      rw [isFound]
      exact ((inOrder_attempt isRest other).upTo tailOrdered offset).isPrefix

/-- What is read lies behind the keyword. -/
theorem keyword_before_last
    (occurs : Occurs catalog tokens occurrence)
    (ordered : tokens.Pairwise fun earlier later => earlier.start < later.start)
    {read : Read}
    (isRead : read ∈ occurrence.reads) :
    read.last ∈ tokens ∧ ∀ keyword ∈ occurrence.keyword, keyword.start < read.last.start := by
  cases occurs with
  | @intro stack reader keyword tail isRest isTokens =>
    rw [readsAt_eq] at isRead
    obtain ⟨type, -, isReadFor⟩ := List.mem_flatMap.1 isRead
    have inTail : read.last ∈ tail :=
      (inOrder_attempt isRest type).inTokens.subset (List.mem_map.2 ⟨read, isReadFor, rfl⟩)
    rw [← isTokens, Reader.tokens, isRest] at ordered ⊢
    refine ⟨by simp [inTail], ?_⟩
    intro other isKeyword
    obtain rfl := Option.mem_some_iff.1 isKeyword
    exact (List.pairwise_cons.1 (List.pairwise_append.1 ordered).2.1).1 read.last inTail

/-- Of an occurrence behind the offset nothing counts. -/
theorem readCount_of_behind
    (occurs : Occurs catalog tokens occurrence)
    (ordered : tokens.Pairwise fun earlier later => earlier.start < later.start)
    {offset : Nat}
    (isBehind : ¬ occurrence.startsBefore offset = true) (type : ConceptType) :
    occurrence.readCount type offset = 0 := by
  obtain ⟨keyword, isKeyword⟩ : ∃ keyword, occurrence.keyword = some keyword := by
    cases occurs
    exact ⟨_, rfl⟩
  rw [startsBefore, isKeyword, Option.any_some, decide_eq_true_eq] at isBehind
  apply List.length_eq_zero_iff.2
  apply List.filter_eq_nil_iff.2
  intro read isRead
  have keywordBefore := (occurs.keyword_before_last ordered isRead).2 keyword isKeyword
  simp only [Bool.and_eq_true, decide_eq_true_eq, not_and]
  omega

end Occurs

end Occurrence

end ConceptScript
