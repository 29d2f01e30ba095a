import ConceptScript.Proofs.Script.Continuation
import ConceptScript.Proofs.Script.Occurrence
import Mathlib.Data.List.Chain

/-!
Contract: the order in which a parse reports what it finds.

Keywords and blocks are reported from front to back. Members are not: an attempt that is given up
may have gone further than the one that is taken. But every attempt reports its members in the order
in which they are declared, with the values read so far. Blocks are reported one by one as the
braces demand it. All of this holds up to the last event, also where the parse fails.

Owns what an event may report behind those reported before it, and that the events of a parse are
reported like that.

Does not own what is concluded from the events.
-/

set_option autoImplicit false

namespace ConceptScript

namespace Event

/-- The keyword that is reported, or that a concept has been ended. -/
def word? : Event → Option (Option String)
  | .keyword _ word => some word
  | .member _ _ _ _ | .opened _ _ | .closed _ _ => none

/-- The values of a type that have been read behind an event, given those in front of it. A keyword
begins anew. -/
def valuesBehind (type : ConceptType) (values : List String) : Event → List String
  | .keyword _ (some _) => []
  | .member _ concept _ (.ok value) => if concept.type = type then values ++ [value] else values
  | .member _ _ _ (.error _) | .keyword _ none | .opened _ _ | .closed _ _ => values

end Event

namespace Parse

/-! ## What may be reported -/

/-- The values of a type that have been read since the last keyword. -/
def valuesRead (type : ConceptType) (events : List Event) : List String :=
  events.foldl (Event.valuesBehind type) []

/-- No keyword and no block has been reported further on. -/
def UpTo (reader : Reader) (events : List Event) : Prop :=
  ∀ event ∈ events, event.IsMember ∨ event.reader.position ≤ reader.position

/-- As many concepts are open as the tokens have opening braces more than closing ones. -/
def Balanced (tokens : List Token) (stack : List Concept) : Prop :=
  tokens.countP (fun token => token.isSpecial "\x7b") =
    stack.length + tokens.countP fun token => token.isSpecial "\x7d"

/-- Every concept is of a type that lists the type of the one around it, innermost first. -/
def AllowedInEachOther (stack : List Concept) : Prop :=
  stack.IsChain fun inner outer => outer.typeName ∈ inner.type.parents

/-- The last events are those of a concept that has been read inside of the open ones, up to the
given place. -/
def JustRead (catalog : Catalog) (events : List Event) (concept : Concept) (next : Reader) : Prop :=
  ∃ earlier reader keyword members,
    events = earlier ++ .keyword reader (some keyword.value) :: members ∧
      (∀ event ∈ members, event.IsMember) ∧
      reader.peek? = some keyword ∧
      (readConcept catalog (openBehind [] earlier) reader keyword).2 = .ok (concept, next)

end Parse

open Parse in
/-- An event behind those reported before. Keywords and blocks do not go back. A block is opened for
the concept just read, at a brace, or it is the innermost one that is closed. The blocks agree with
the braces among the tokens consumed so far. A member is the next one of its type, and is reported
with the values of the members in front of it, and with its own if it could be read. -/
def Event.Fits (catalog : Catalog) (tokens : List Token) (before : List Event) : Event → Prop
  | .keyword reader _ => UpTo reader before
  | .member _ concept declared value =>
    concept.type.members[(valuesRead concept.type before).length]? = some declared ∧
      concept.values = valuesRead concept.type before ++ value.toOption.toList
  | .opened reader stack =>
    UpTo reader before ∧ Balanced (tokens.take reader.position) stack ∧ AllowedInEachOther stack ∧
      ∃ concept next brace, JustRead catalog before concept next ∧
        next.peek? = some brace ∧ brace.isSpecial "\x7b" = true ∧ reader = next.advance ∧
        stack = concept :: Parse.openBehind [] before
  | .closed reader stack =>
    UpTo reader before ∧ Balanced (tokens.take reader.position) stack ∧ AllowedInEachOther stack ∧
      ∃ innermost, Parse.openBehind [] before = innermost :: stack

/-- Every event fits those before it. -/
def Event.EachFits (catalog : Catalog) (tokens : List Token) : (before events : List Event) → Prop
  | _, [] => True
  | before, event :: later =>
    event.Fits catalog tokens before ∧ EachFits catalog tokens (before ++ [event]) later

namespace Event.EachFits

variable {catalog : Catalog} {tokens : List Token} {before first second : List Event}

theorem append
    (firstFit : EachFits catalog tokens before first)
    (secondFit : EachFits catalog tokens (before ++ first) second) :
    EachFits catalog tokens before (first ++ second) := by
  induction first generalizing before with
  | nil => rwa [List.append_nil] at secondFit
  | cons event first inductionHypothesis =>
    refine ⟨firstFit.1, inductionHypothesis firstFit.2 ?_⟩
    rwa [List.append_assoc]

theorem fits
    {event : Event} {front behind : List Event}
    (eachFit : EachFits catalog tokens before (front ++ event :: behind)) :
    event.Fits catalog tokens (before ++ front) := by
  induction front generalizing before with
  | nil =>
    rw [List.append_nil]
    exact eachFit.1
  | cons first front inductionHypothesis =>
    have laterFits := inductionHypothesis eachFit.2
    rwa [List.append_assoc] at laterFits

end Event.EachFits

namespace Parse

variable {catalog : Catalog} {tokens : List Token} {before events : List Event}

/-! ## Members -/

theorem valuesRead_append_of_other
    {type : ConceptType}
    (allMembers : ∀ event ∈ events, event.IsMember)
    (otherType : ∀ event ∈ events, ∀ concept ∈ event.concept?, concept.type ≠ type) :
    valuesRead type (before ++ events) = valuesRead type before := by
  rw [valuesRead, List.foldl_append]
  induction events with
  | nil => rfl
  | cons event events inductionHypothesis =>
    rw [List.forall_mem_cons] at allMembers otherType
    have unchanged : Event.valuesBehind type (before.foldl (Event.valuesBehind type) []) event =
        before.foldl (Event.valuesBehind type) [] := by
      obtain ⟨reader, concept, declared, value, rfl⟩ := allMembers.1.exists_eq
      cases value with
      | error fault => rfl
      | ok value => exact if_neg (otherType.1 concept rfl)
    rw [List.foldl_cons, unchanged]
    exact inductionHypothesis allMembers.2 otherType.2

/-- An attempt goes through the members that are left, each time with one more value. -/
theorem eachFits_readMembers
    {type : ConceptType} {values : List String} {done members : List Member}
    (isMembers : type.members = done ++ members)
    (sameLength : values.length = done.length)
    (areRead : valuesRead type before = values) (reader : Reader) :
    Event.EachFits catalog tokens before (readMembers type values members reader).1 := by
  induction members generalizing before values done reader with
  | nil => trivial
  | cons member members inductionHypothesis =>
    have isNext : type.members[(valuesRead type before).length]? = some member := by
      rw [areRead, sameLength, isMembers, List.getElem?_append_right (Nat.le_refl _), Nat.sub_self]
      rfl
    rw [readMembers]
    split
    · next value next isRead =>
      refine ⟨⟨isNext, congrArg (· ++ [value]) areRead.symm⟩, ?_⟩
      apply inductionHypothesis (by rw [isMembers, List.append_cons])
      · simp [sameLength]
      · simp [valuesRead, Event.valuesBehind, ← areRead]
    · next fault next isRead =>
      refine ⟨⟨isNext, ?_⟩, trivial⟩
      exact areRead.symm.trans (List.append_nil _).symm

/-- The types of a keyword are tried one after the other, and each of them only once. -/
theorem eachFits_attempts
    {types : List ConceptType}
    (distinct : types.Nodup)
    (nothingRead : ∀ type ∈ types, valuesRead type before = []) (reader : Reader) :
    Event.EachFits catalog tokens before ((types.map (attempt reader)).flatMap Prod.fst) := by
  induction types generalizing before with
  | nil => trivial
  | cons type types inductionHypothesis =>
    rw [List.nodup_cons] at distinct
    rw [List.forall_mem_cons] at nothingRead
    rw [List.map_cons, List.flatMap_cons]
    have noneDone : type.members = [] ++ type.members := rfl
    refine .append (eachFits_readMembers noneDone rfl nothingRead.1 reader.advance) ?_
    apply inductionHypothesis distinct.2
    intro other isLater
    have isOther : type ≠ other := by
      rintro rfl
      exact distinct.1 isLater
    rw [valuesRead_append_of_other, nothingRead.2 other isLater]
    · intro event isReported
      exact isMember_readMembers isReported
    · intro event isReported concept isConcept
      rw [Occurrence.type_of_mem_readMembers isReported concept isConcept]
      exact isOther

theorem eachFits_readConcept
    {reader : Reader}
    (upTo : UpTo reader before) (stack : List Concept) (keyword : Token) :
    Event.EachFits catalog tokens before (readConcept catalog stack reader keyword).1 := by
  by_cases isText : keyword.isText = true
  · rw [readConcept_of_isText isText]
    refine ⟨upTo, eachFits_attempts ?_ ?_ reader⟩
    · exact (catalog.nodup_types.filter _).filter _
    · intro type isType
      simp [valuesRead, Event.valuesBehind]
  · rw [readConcept, if_neg isText]
    exact ⟨upTo, trivial⟩

/-! ## Positions -/

namespace UpTo

variable {reader later : Reader}

theorem append
    (firstUpTo : UpTo reader before)
    (secondUpTo : UpTo reader events) :
    UpTo reader (before ++ events) :=
  List.forall_mem_append.2 ⟨firstUpTo, secondUpTo⟩

theorem of_append (upTo : UpTo reader (before ++ events)) : UpTo reader before :=
  (List.forall_mem_append.1 upTo).1

theorem mono
    (upTo : UpTo reader events)
    (reached : reader.Reaches later) :
    UpTo later events := by
  intro event isEvent
  obtain ⟨taken, -, isConsumed, -⟩ := reached
  have isFurther : reader.position ≤ later.position := by
    simp [Reader.position, isConsumed]
  exact (upTo event isEvent).imp_right fun isBefore => Nat.le_trans isBefore isFurther

end UpTo

theorem upTo_readConcept
    (catalog : Catalog) (stack : List Concept) (reader : Reader) (keyword : Token) :
    UpTo reader (readConcept catalog stack reader keyword).1 := by
  obtain ⟨members, isEvents, allMembers⟩ := exists_readConcept_events catalog stack reader keyword
  rw [isEvents]
  refine List.forall_mem_cons.2 ⟨.inr (Nat.le_refl _), ?_⟩
  intro event isMember
  exact .inl (allMembers event isMember)

theorem upTo_step
    {state later : State} {concepts : List Concept}
    (step : Step catalog state events concepts later) :
    UpTo later.reader events := by
  have reached := step.reaches
  cases step with
  | closes isBrace => exact List.forall_mem_singleton.2 (.inr (Nat.le_refl _))
  | ends isRest isRead isMark =>
    refine ((upTo_readConcept catalog _ _ _).mono reached).append ?_
    exact List.forall_mem_singleton.2 (.inr (Nat.le_refl _))
  | opens isRest isRead isMark =>
    refine ((upTo_readConcept catalog _ _ _).mono reached).append ?_
    refine List.forall_mem_cons.2 ⟨.inr (Nat.le_refl _), ?_⟩
    exact List.forall_mem_singleton.2 (.inr (Nat.le_refl _))

end Parse

/-! ## Braces -/

namespace Grammar

theorem Path.not_isBarrier
    {tokens : List Token} {value : String}
    (path : Path tokens value) :
    ∀ token ∈ tokens, token.isBarrier = false := by
  induction path with
  | text isText => simp [Token.isBarrier, isText]
  | dotted isText isDot _ inductionHypothesis =>
    rw [List.forall_mem_cons, List.forall_mem_cons]
    exact ⟨by simp [Token.isBarrier, isText], by simp [Token.isBarrier, isDot], inductionHypothesis⟩

theorem Argument.not_isBarrier
    {kind : Member.Kind} {tokens after : List Token} {value : String}
    (argument : Argument kind tokens value after) :
    ∀ token ∈ tokens, token.isBarrier = false := by
  cases argument with
  | text isText => simp [Token.isBarrier, isText]
  | reference path => exact path.not_isBarrier

theorem Arguments.not_isBarrier
    {members : List Member} {tokens after : List Token} {values : List String}
    (arguments : Arguments members tokens values after) :
    ∀ token ∈ tokens, token.isBarrier = false := by
  induction arguments with
  | nil => exact List.forall_mem_nil _
  | cons first _ inductionHypothesis =>
    exact List.forall_mem_append.2 ⟨first.not_isBarrier, inductionHypothesis⟩

theorem Written.not_isBarrier
    {concept : Concept} {head after : List Token}
    (written : Written concept head after) :
    ∀ token ∈ head, token.isBarrier = false := by
  cases written with
  | intro isText _ areArguments =>
    exact List.forall_mem_cons.2 ⟨by simp [Token.isBarrier, isText], areArguments.not_isBarrier⟩

end Grammar

namespace Parse

variable {catalog : Catalog} {tokens : List Token} {before events : List Event}

theorem countP_of_not_isBarrier
    {mark : String}
    (notBarrier : ∀ token ∈ tokens, token.isBarrier = false)
    (notDot : mark ≠ ".") :
    tokens.countP (fun token => token.isSpecial mark) = 0 := by
  rw [List.countP_eq_zero]
  intro token isToken isMark
  have isBarrier := Token.isBarrier_of_isSpecial isMark notDot
  rw [notBarrier token isToken] at isBarrier
  cases isBarrier

/-- The tokens of a concept have no braces. -/
theorem balanced_readConcept
    {stack : List Concept} {reader next : Reader} {keyword : Token} {tail : List Token}
    {concept : Concept}
    (isRest : reader.rest = keyword :: tail)
    (isRead : (readConcept catalog stack reader keyword).2 = .ok (concept, next))
    (balanced : Balanced reader.consumed stack) :
    Balanced next.consumed stack := by
  obtain ⟨head, after, -, rfl, chosen⟩ := (readConcept_eq_ok_iff isRest).1 isRead
  have notBarrier : ∀ token ∈ head.reverse, token.isBarrier = false := by
    intro token isToken
    exact chosen.written.not_isBarrier token (List.mem_reverse.1 isToken)
  unfold Balanced at balanced ⊢
  rw [List.countP_append, List.countP_append, countP_of_not_isBarrier notBarrier (by decide),
    countP_of_not_isBarrier notBarrier (by decide), Nat.zero_add, Nat.zero_add]
  exact balanced

theorem balanced_step
    {state later : State} {concepts : List Concept}
    (step : Step catalog state events concepts later)
    (balanced : Balanced state.reader.consumed state.stack) :
    Balanced later.reader.consumed later.stack := by
  cases step with
  | @closes innermost outer last brace consumed behind stop isBrace =>
    have notOpening : brace.isSpecial "\x7b" = false := isSpecial_unique isBrace (by decide)
    simp only [Balanced, List.countP_cons, List.length_cons, isBrace, notOpening] at balanced ⊢
    simp only [Bool.false_eq_true, ↓reduceIte] at balanced ⊢
    omega
  | @ends stack reader keyword mark tail concept consumed behind stop isRest isRead isMark =>
    have atMark := balanced_readConcept isRest isRead balanced
    have notOpening : mark.isSpecial "\x7b" = false := isSpecial_unique isMark (by decide)
    have notClosing : mark.isSpecial "\x7d" = false := isSpecial_unique isMark (by decide)
    simp only [Balanced, List.countP_cons, notOpening, notClosing] at atMark ⊢
    simpa using atMark
  | @opens stack reader keyword mark tail concept consumed behind stop isRest isRead isMark =>
    have atMark := balanced_readConcept isRest isRead balanced
    have notClosing : mark.isSpecial "\x7d" = false := isSpecial_unique isMark (by decide)
    simp only [Balanced, List.countP_cons, List.length_cons, isMark, notClosing] at atMark ⊢
    simp only [Bool.false_eq_true, ↓reduceIte] at atMark ⊢
    omega

/-! ## Steps -/

/-- The events that have been reported where a state is come to. -/
structure Reported (tokens : List Token) (before : List Event) (state : State) : Prop where
  sameTokens : state.reader.tokens = tokens
  upTo : UpTo state.reader before
  isOpen : openBehind [] before = state.stack
  balanced : Balanced state.reader.consumed state.stack
  allowed : AllowedInEachOther state.stack

namespace Reported

variable {state later : State} {concepts : List Concept}

theorem initial (tokens : List Token) (stop : Nat) :
    Reported tokens [] (.initial tokens stop) where
  sameTokens := rfl
  upTo := List.forall_mem_nil _
  isOpen := rfl
  balanced := rfl
  allowed := .nil

theorem step
    (reported : Reported tokens before state)
    (step : Step catalog state events concepts later) :
    Reported tokens (before ++ events) later where
  sameTokens := step.reaches.tokens_eq.trans reported.sameTokens
  upTo := (reported.upTo.mono step.reaches).append (upTo_step step)
  isOpen := by rw [openBehind_append, reported.isOpen, openBehind_step step]
  balanced := balanced_step step reported.balanced
  allowed := by
    cases step with
    | closes isBrace => exact reported.allowed.tail
    | ends isRest isRead isMark => exact reported.allowed
    | opens isRest isRead isMark =>
      exact List.isChain_cons.2 ⟨mem_parents_of_readConcept isRest isRead, reported.allowed⟩

/-- The braces among the tokens in front of the reader. -/
theorem balanced_take (reported : Reported tokens before state) :
    Balanced (tokens.take state.reader.position) state.stack := by
  have isConsumed : tokens.take state.reader.position = state.reader.consumed.reverse := by
    rw [← reported.sameTokens, Reader.tokens, Reader.position, ← List.length_reverse,
      List.take_left]
  rw [isConsumed, Balanced, List.countP_reverse, List.countP_reverse]
  exact reported.balanced

theorem justRead
    {stack : List Concept} {reader next : Reader} {keyword : Token} {tail : List Token}
    {concept : Concept}
    (reported : Reported tokens before ⟨stack, reader⟩)
    (isRest : reader.rest = keyword :: tail)
    (isRead : (readConcept catalog stack reader keyword).2 = .ok (concept, next)) :
    JustRead catalog (before ++ (readConcept catalog stack reader keyword).1) concept next := by
  obtain ⟨members, isEvents, allMembers⟩ := exists_readConcept_events catalog stack reader keyword
  refine ⟨before, reader, keyword, members, ?_, allMembers, ?_, ?_⟩
  · rw [isEvents, word_of_readConcept isRead]
  · rw [Reader.peek?, isRest, List.head?_cons]
  · rw [reported.isOpen]
    exact isRead

/-- What a step reports fits what was reported before it. -/
theorem eachFits_step
    (reported : Reported tokens before state)
    (step : Step catalog state events concepts later) :
    Event.EachFits catalog tokens before events := by
  have behind := reported.step step
  have balanced := behind.balanced_take
  cases step with
  | @closes innermost outer =>
    exact ⟨⟨behind.upTo.of_append, balanced, behind.allowed, innermost, reported.isOpen⟩, trivial⟩
  | ends isRest isRead isMark =>
    rw [← List.append_assoc] at behind
    exact (eachFits_readConcept reported.upTo _ _).append ⟨behind.upTo.of_append, trivial⟩
  | @opens stack reader keyword mark tail concept consumed rest stop isRest isRead isMark =>
    refine (eachFits_readConcept reported.upTo _ _).append ⟨?_, ?_, trivial⟩
    · have upTo := behind.upTo
      rw [← List.append_assoc] at upTo
      refine ⟨upTo.of_append, balanced, behind.allowed, concept, ⟨consumed, mark :: rest, stop⟩,
        mark, reported.justRead isRest isRead, rfl, isMark, rfl, ?_⟩
      rw [openBehind_append, openBehind_readConcept, reported.isOpen]
    · have upTo := behind.upTo
      rw [List.append_cons _ _ [_], ← List.append_assoc, ← List.append_assoc] at upTo
      exact upTo.of_append

theorem eachFits_steps
    (reported : Reported tokens before state)
    (steps : Steps catalog state events concepts later) :
    Event.EachFits catalog tokens before events ∧ Reported tokens (before ++ events) later := by
  induction steps generalizing before with
  | refl => exact ⟨trivial, by rwa [List.append_nil]⟩
  | head step _ inductionHypothesis =>
    obtain ⟨laterFits, isReported⟩ := inductionHypothesis (reported.step step)
    rw [List.append_assoc] at isReported
    exact ⟨(reported.eachFits_step step).append laterFits, isReported⟩

theorem eachFits_halts
    {parse : Parse}
    (reported : Reported tokens before state)
    (halts : Halts catalog state parse) :
    Event.EachFits catalog tokens before parse.events := by
  cases halts with
  | finished => trivial
  | unclosed => trivial
  | unopened => trivial
  | unread => exact eachFits_readConcept reported.upTo _ _
  | unended => exact eachFits_readConcept reported.upTo _ _

end Reported

/-! ## Keywords and ends -/

/-- Concepts are begun and ended in turn. At the end one that cannot be read or ended is left, or a
token that no concept can begin with is reported like an end. -/
def Alternates (tokens : List Token) (parse : Parse) : Prop :=
  ∃ (words : List String) (ending : List (Option String)),
    parse.events.filterMap Event.word? = words.flatMap (fun word => [some word, none]) ++ ending ∧
      (ending = [] ∨
        (∃ word fault, ending = [some word] ∧ parse.outcome = .error fault) ∨
        (ending = [none] ∧ ∃ token ∈ tokens, token.isText = false ∧
          parse.outcome = .error ⟨.keywordExpected token.value, token.start⟩))

theorem words_readConcept
    (catalog : Catalog) (stack : List Concept) (reader : Reader) (keyword : Token) :
    (readConcept catalog stack reader keyword).1.filterMap Event.word? = [word keyword] := by
  obtain ⟨members, isEvents, allMembers⟩ := exists_readConcept_events catalog stack reader keyword
  have noWord : members.filterMap Event.word? = [] := by
    rw [List.filterMap_eq_nil_iff]
    intro event isMember
    obtain ⟨reader, concept, declared, value, rfl⟩ := (allMembers event isMember).exists_eq
    rfl
  rw [isEvents]
  exact congrArg (List.cons (word keyword)) noWord

theorem exists_words_of_step
    {state later : State} {concepts : List Concept}
    (step : Step catalog state events concepts later) :
    ∃ words : List String,
      events.filterMap Event.word? = words.flatMap fun word => [some word, none] := by
  cases step with
  | closes isBrace => exact ⟨[], rfl⟩
  | @ends stack reader keyword mark tail concept consumed behind stop isRest isRead isMark =>
    refine ⟨[keyword.value], ?_⟩
    rw [List.filterMap_append, words_readConcept, word_of_readConcept isRead]
    rfl
  | @opens stack reader keyword mark tail concept consumed behind stop isRest isRead isMark =>
    refine ⟨[keyword.value], ?_⟩
    rw [List.filterMap_append, words_readConcept, word_of_readConcept isRead]
    rfl

theorem exists_words_of_steps
    {state later : State} {concepts : List Concept}
    (steps : Steps catalog state events concepts later) :
    ∃ words : List String,
      events.filterMap Event.word? = words.flatMap fun word => [some word, none] := by
  induction steps with
  | refl => exact ⟨[], rfl⟩
  | head step _ inductionHypothesis =>
    obtain ⟨words, areWords⟩ := exists_words_of_step step
    obtain ⟨laterWords, areLater⟩ := inductionHypothesis
    refine ⟨words ++ laterWords, ?_⟩
    rw [List.filterMap_append, areWords, areLater, List.flatMap_append]

theorem alternates_halts
    {state : State} {parse : Parse}
    (halts : Halts catalog state parse) :
    Alternates state.reader.tokens parse := by
  cases halts with
  | finished => exact ⟨[], [], rfl, .inl rfl⟩
  | unclosed => exact ⟨[], [], rfl, .inl rfl⟩
  | unopened => exact ⟨[], [], rfl, .inl rfl⟩
  | @unread stack reader keyword tail fault isRest atConcept isFault =>
    refine ⟨[], [word keyword], words_readConcept catalog stack reader keyword, .inr ?_⟩
    by_cases isText : keyword.isText = true
    · have isWord : word keyword = some keyword.value := if_pos isText
      exact .inl ⟨keyword.value, fault, by rw [isWord], rfl⟩
    · have isWord : word keyword = none := if_neg isText
      refine .inr ⟨by rw [isWord], keyword, ?_, Bool.eq_false_iff.2 isText, ?_⟩
      · simp [Reader.tokens, isRest]
      · have isExpected : (readConcept catalog stack reader keyword).2 =
            .error ⟨.keywordExpected keyword.value, keyword.start⟩ := by
          rw [readConcept, if_neg isText]
        rw [Except.error.inj (isFault.symm.trans isExpected)]
  | @unended stack reader next keyword tail concept isRest isRead =>
    refine ⟨[], [word keyword], words_readConcept catalog stack reader keyword, .inr (.inl ?_)⟩
    exact ⟨keyword.value, _, by rw [word_of_readConcept isRead], rfl⟩

end Parse

open Parse in
/-- **Events are reported in order.** Whether a parse succeeds or fails, every event fits those
before it, and concepts are begun and ended in turn. -/
theorem Catalog.parse_events_in_order (catalog : Catalog) (tokens : List Token) (stop : Nat) :
    (∀ before event behind, (catalog.parse tokens stop).events = before ++ event :: behind →
        event.Fits catalog tokens before) ∧
      Alternates tokens (catalog.parse tokens stop) := by
  obtain ⟨events, concepts, halted, parse, steps, halts⟩ :=
    exists_steps_halts catalog (.initial tokens stop)
  have isParse : catalog.parse tokens stop = parse.after events concepts :=
    parse_eq_after steps halts
  rw [isParse]
  refine ⟨?_, ?_⟩
  · intro before event behind areEvents
    obtain ⟨stepsFit, reported⟩ := (Reported.initial tokens stop).eachFits_steps steps
    have allFit : Event.EachFits catalog tokens [] (before ++ event :: behind) := by
      rw [← areEvents]
      exact stepsFit.append (reported.eachFits_halts halts)
    exact allFit.fits
  · have sameTokens : halted.reader.tokens = tokens := steps.reaches.tokens_eq
    obtain ⟨words, areWords⟩ := exists_words_of_steps steps
    obtain ⟨laterWords, ending, areLater, isEnding⟩ := alternates_halts halts
    rw [sameTokens] at isEnding
    refine ⟨words ++ laterWords, ending, ?_, ?_⟩
    · show (events ++ parse.events).filterMap Event.word? = _
      rw [List.filterMap_append, areWords, areLater, List.flatMap_append, List.append_assoc]
    · simpa only [outcome_after_eq_error_iff] using isEnding

/-- A link inside of a block, and behind the block a dot that begins nothing. -/
def Catalog.strayDot : List Token :=
  (Scan.ofChars "part a \x7b part b.c d; \x7d .".toList).tokens

/-- The block is closed in front of the dot, where one was open. -/
theorem Catalog.parse_events_in_order_up_to_dot :
    let parse := namesAndLinks.parse strayDot 24
    parse.outcome = .error ⟨.keywordExpected ".", 23⟩ ∧
      parse.events.filterMap Event.word? = [some "part", none, some "part", none, none] ∧
      ∃ event behind, parse.events = parse.events.take 11 ++ event :: behind ∧
        (Parse.openBehind [] (parse.events.take 11)).length = 1 ∧
        Parse.openBehind [] (parse.events.take 12) = [] ∧
        event.Fits namesAndLinks strayDot (parse.events.take 11) := by
  have isLong : 11 < (namesAndLinks.parse strayDot 24).events.length := by decide +kernel
  have isSplit := (List.take_append_drop 11 (namesAndLinks.parse strayDot 24).events).symm
  rw [List.drop_eq_getElem_cons isLong] at isSplit
  exact ⟨by decide +kernel, by decide +kernel, _, _, isSplit, by decide +kernel, by decide +kernel,
    (parse_events_in_order namesAndLinks strayDot 24).1 _ _ _ isSplit⟩

end ConceptScript
