import ConceptScript.Proofs.Script.Respelling
import ConceptScript.Proofs.Token.Span
import ConceptScript.Proofs.Token.Writing

/-!
Contract: what a script means does not depend on how it is laid out and spelled.

Two parses go on side by side. The tokens of the second say the same as those of the first, except
that keywords may be written in another case. Which tokens are keywords is told by the first parse
while it runs: between the keyword of a concept and the mark behind it there is no other one, and
from a state on none is reported at a token that is consumed already.

Owns the places of keywords in a parse, the steps and halts that two such parses have in common, and
scripts that differ in blanks, comments, quotes and the case of their keywords.

Does not own what tokens are found in a text.
-/

set_option autoImplicit false

namespace ConceptScript

open Token (Alike SameIndex)

/-! ## Respelled tokens -/

namespace Token

/-- The contents of tokens that say the same position by position, except that at some places they
may differ in the case of letters. -/
structure Respelled (recased : Nat → Prop) (words others : List (Kind × String)) : Prop where
  sameLength : words.length = others.length
  kinds : ∀ {index : Nat} {word other : Kind × String}, words[index]? = some word →
    others[index]? = some other → word.1.Interchangeable other.1
  values : ∀ {index : Nat} {word other : Kind × String}, words[index]? = some word →
    others[index]? = some other →
      word.2 = other.2 ∨ recased index ∧ sameKeyword word.2 other.2 = true

/-- A place with no barrier in front of it, which a member may come to. -/
def InReach (tokens : List Token) (index : Nat) : Prop :=
  ∀ earlier < index, ∀ token ∈ tokens[earlier]?, token.isBarrier = false

namespace Respelled

variable {recased : Nat → Prop}

theorem mono
    {words others : List (Kind × String)} {wider : Nat → Prop}
    (respelled : Respelled recased words others)
    (isWider : ∀ index, recased index → wider index) :
    Respelled wider words others where
  sameLength := respelled.sameLength
  kinds := respelled.kinds
  values isWord isOther := (respelled.values isWord isOther).imp_right
    fun recasedThere => ⟨isWider _ recasedThere.1, recasedThere.2⟩

theorem drop
    {words others : List (Kind × String)}
    (respelled : Respelled recased words others) (count : Nat) :
    Respelled (fun index => recased (count + index)) (words.drop count) (others.drop count) where
  sameLength := by simp [respelled.sameLength]
  kinds isWord isOther := by
    rw [List.getElem?_drop] at isWord isOther
    exact respelled.kinds isWord isOther
  values isWord isOther := by
    rw [List.getElem?_drop] at isWord isOther
    exact respelled.values isWord isOther

variable {tokens others : List Token}

theorem eq_nil (respelled : Respelled recased (Scan.contents []) (Scan.contents others)) :
    others = [] :=
  List.map_eq_nil_iff.1 (List.eq_nil_of_length_eq_zero respelled.sameLength.symm)

theorem exists_cons
    {token : Token} {rest : List Token}
    (respelled : Respelled recased (Scan.contents (token :: rest)) (Scan.contents others)) :
    ∃ other otherRest, others = other :: otherRest ∧
      token.kind.Interchangeable other.kind ∧
      (token.value = other.value ∨
        recased 0 ∧ sameKeyword token.value other.value = true) ∧
      Respelled (fun index => recased (1 + index)) (Scan.contents rest)
        (Scan.contents otherRest) := by
  cases others with
  | nil => cases respelled.sameLength
  | cons other otherRest =>
    have isToken : (Scan.contents (token :: rest))[0]? = some (token.kind, token.value) := rfl
    exact ⟨other, otherRest, rfl, respelled.kinds isToken rfl, respelled.values isToken rfl,
      respelled.drop 1⟩

/-- Tokens say the same up to the first barrier if none of them may be recased. -/
theorem alike
    (respelled : Respelled recased (Scan.contents tokens) (Scan.contents others))
    (noneRecased : ∀ index, InReach tokens index → ¬ recased index) :
    Alike tokens others := by
  induction tokens generalizing others recased with
  | nil =>
    rw [respelled.eq_nil]
    exact .nil
  | cons token rest inductionHypothesis =>
    obtain ⟨other, otherRest, rfl, kinds, values, later⟩ := respelled.exists_cons
    have notRecased : ¬ recased 0 := noneRecased 0 (by simp [InReach])
    have same : SameWord token other :=
      ⟨kinds, values.resolve_right fun recasedThere => notRecased recasedThere.1⟩
    by_cases isBarrier : token.isBarrier = true
    · exact .barrier same isBarrier
    · refine .cons same (inductionHypothesis later ?_)
      intro index inReach
      rw [Nat.add_comm]
      apply noneRecased
      intro earlier isEarlier found isFound
      cases earlier with
      | zero =>
        obtain rfl : token = found := by simpa using isFound
        simpa using isBarrier
      | succ earlier => exact inReach earlier (by omega) found isFound

end Respelled

end Token

theorem Reader.Reaches.rest_eq_drop
    {reader later : Reader}
    (reached : reader.Reaches later) :
    later.rest = reader.rest.drop (later.position - reader.position) := by
  obtain ⟨taken, isRest, isConsumed, -⟩ := reached
  have isPosition : later.position = taken.length + reader.position := by
    simp [position, isConsumed]
  simp [isRest, isPosition]

namespace Parse

/-! ## Places of keywords -/

/-- A keyword is reported when so many tokens are consumed. -/
def KeywordAt (events : List Event) (index : Nat) : Prop :=
  ∃ reader word, .keyword reader (some word) ∈ events ∧ reader.position = index

instance (events : List Event) (index : Nat) : Decidable (KeywordAt events index) :=
  decidable_of_iff
    (events.any fun
      | .keyword reader (some _) => reader.position == index
      | _ => false) (by
    rw [List.any_eq_true]
    constructor
    · rintro ⟨event, isEvent, isKeyword⟩
      split at isKeyword
      · next reader word => exact ⟨reader, word, isEvent, beq_iff_eq.1 isKeyword⟩
      · cases isKeyword
    · rintro ⟨reader, word, isEvent, isPosition⟩
      exact ⟨_, isEvent, beq_iff_eq.2 isPosition⟩)

theorem keywordAt_append {front back : List Event} {index : Nat} :
    KeywordAt (front ++ back) index ↔ KeywordAt front index ∨ KeywordAt back index := by
  simp only [KeywordAt, List.mem_append, or_and_right, exists_or]

theorem keywordAt_readConcept
    {catalog : Catalog} {stack : List Concept} {reader : Reader} {keyword : Token} {index : Nat}
    (isKeyword : KeywordAt (readConcept catalog stack reader keyword).1 index) :
    index = reader.position ∧ keyword.isText = true := by
  obtain ⟨members, isEvents, allMembers⟩ :=
    exists_readConcept_events catalog stack reader keyword
  obtain ⟨place, found, isFound, rfl⟩ := isKeyword
  rw [isEvents] at isFound
  rcases List.mem_cons.1 isFound with isHead | isMember
  · obtain ⟨rfl, isWord⟩ := Event.keyword.inj isHead
    refine ⟨rfl, ?_⟩
    by_cases isText : keyword.isText = true
    · exact isText
    · simp [word, isText] at isWord
  · cases allMembers _ isMember

/-- The keyword that a step reports is the token that the state is at. -/
theorem Step.eq_of_keywordAt
    {catalog : Catalog} {state later : State} {events : List Event} {concepts : List Concept}
    {index : Nat}
    (step : Step catalog state events concepts later)
    (isKeyword : KeywordAt events index) :
    index = state.reader.position ∧ ∀ token ∈ state.reader.peek?, token.isText = true := by
  cases step with
  | closes => simp [KeywordAt] at isKeyword
  | ends isRest =>
    rcases keywordAt_append.1 isKeyword with atStart | atMark
    · simpa [Reader.peek?, isRest] using keywordAt_readConcept atStart
    · simp [KeywordAt] at atMark
  | opens isRest =>
    rcases keywordAt_append.1 isKeyword with atStart | atMark
    · simpa [Reader.peek?, isRest] using keywordAt_readConcept atStart
    · simp [KeywordAt] at atMark

theorem Halts.eq_of_keywordAt
    {catalog : Catalog} {state : State} {parse : Parse} {index : Nat}
    (halts : Halts catalog state parse)
    (isKeyword : KeywordAt parse.events index) :
    index = state.reader.position ∧ ∀ token ∈ state.reader.peek?, token.isText = true := by
  cases halts with
  | finished => simp [KeywordAt] at isKeyword
  | unclosed => simp [KeywordAt] at isKeyword
  | unopened => simp [KeywordAt] at isKeyword
  | unread isRest => simpa [Reader.peek?, isRest] using keywordAt_readConcept isKeyword
  | unended isRest => simpa [Reader.peek?, isRest] using keywordAt_readConcept isKeyword

theorem Step.position_lt
    {catalog : Catalog} {state later : State} {events : List Event} {concepts : List Concept}
    (step : Step catalog state events concepts later) :
    state.reader.position < later.reader.position := by
  obtain ⟨taken, isRest, isConsumed, -⟩ := step.reaches
  have shorter := step.shorter
  rw [isRest, List.length_append] at shorter
  simp only [Reader.position, isConsumed, List.length_append, List.length_reverse]
  omega

/-- From a state on, no keyword is reported at a token that is consumed already. -/
theorem le_of_keywordAt
    {catalog : Catalog} {state : State} {index : Nat}
    (isKeyword : KeywordAt (state.parse catalog).events index) :
    state.reader.position ≤ index := by
  obtain ⟨events, concepts, halted, parse, steps, halts⟩ := exists_steps_halts catalog state
  rw [parse_eq_after steps halts] at isKeyword
  replace isKeyword : KeywordAt (events ++ parse.events) index := isKeyword
  induction steps with
  | refl => exact Nat.le_of_eq (halts.eq_of_keywordAt isKeyword).1.symm
  | head step _ inductionHypothesis =>
    rw [List.append_assoc, keywordAt_append] at isKeyword
    rcases isKeyword with inStep | isLater
    · exact Nat.le_of_eq (step.eq_of_keywordAt inStep).1.symm
    · have laterBehind := inductionHypothesis halts isLater
      have isShorter := step.position_lt
      omega

theorem Step.keywordAt_parse
    {catalog : Catalog} {state later : State} {events : List Event} {concepts : List Concept}
    {index : Nat}
    (step : Step catalog state events concepts later)
    (isKeyword : KeywordAt (state.parse catalog).events index) :
    (index = state.reader.position ∧ ∀ token ∈ state.reader.peek?, token.isText = true) ∨
      KeywordAt (later.parse catalog).events index := by
  rw [parse_of_step step] at isKeyword
  rcases keywordAt_append.1 isKeyword with inStep | isLater
  · exact .inl (step.eq_of_keywordAt inStep)
  · exact .inr isLater

/-- Where a keyword is reported at the next token, that token is text. -/
theorem isText_of_keywordAt
    {catalog : Catalog} {state : State}
    (isKeyword : KeywordAt (state.parse catalog).events state.reader.position) :
    ∀ token ∈ state.reader.peek?, token.isText = true := by
  rcases halts_or_step catalog state with ⟨parse, halts⟩ | ⟨events, concepts, later, step⟩
  · rw [parse_of_halts halts] at isKeyword
    exact (halts.eq_of_keywordAt isKeyword).2
  · rcases step.keywordAt_parse isKeyword with atStart | isLater
    · exact atStart.2
    · have laterBehind := le_of_keywordAt isLater
      have isShorter := step.position_lt
      omega

/-- In what its members may come to, the concept at a state has no other keyword than its own. -/
def SoleKeyword (catalog : Catalog) (state : State) (tail : List Token) : Prop :=
  ∀ index, Token.InReach tail index →
    ¬ KeywordAt (state.parse catalog).events (state.reader.position + (1 + index))

theorem Halts.soleKeyword
    {catalog : Catalog} {state : State} {parse : Parse}
    (halts : Halts catalog state parse) (tail : List Token) :
    SoleKeyword catalog state tail := by
  intro index _ isKeyword
  rw [parse_of_halts halts] at isKeyword
  have atStart := (halts.eq_of_keywordAt isKeyword).1
  omega

/-- Between the first token of a concept and the mark behind it, no keyword is reported. -/
theorem Step.soleKeyword
    {catalog : Catalog} {stack opened : List Concept} {reader : Reader} {keyword mark : Token}
    {tail consumed behind : List Token} {stop : Nat} {concept : Concept} {events : List Event}
    {concepts : List Concept}
    (step : Step catalog ⟨stack, reader⟩ events concepts
      ⟨opened, ⟨mark :: consumed, behind, stop⟩⟩)
    (isRest : reader.rest = keyword :: tail)
    (isRead : (readConcept catalog stack reader keyword).2 =
      .ok (concept, ⟨consumed, mark :: behind, stop⟩))
    (isBarrier : mark.isBarrier = true) :
    SoleKeyword catalog ⟨stack, reader⟩ tail := by
  intro index inReach isKeyword
  obtain ⟨reached, isShorter⟩ := readConcept_shorter isRest isRead
  obtain ⟨taken, isTaken, isConsumed, -⟩ := reached
  obtain ⟨first, taken, rfl⟩ : ∃ first rest, taken = first :: rest := by
    apply List.exists_cons_of_ne_nil
    rintro rfl
    rw [isTaken] at isShorter
    exact Nat.lt_irrefl _ isShorter
  obtain ⟨rfl, isTail⟩ := List.cons.inj (isRest.symm.trans isTaken)
  have isMark : tail[taken.length]? = some mark := by simp [isTail]
  rcases step.keywordAt_parse isKeyword with ⟨atStart, -⟩ | isLater
  · simp only at atStart
    omega
  · -- A later keyword is reported behind the mark, which is a barrier in front of it.
    have laterBehind := le_of_keywordAt isLater
    have isLength := congrArg List.length isConsumed
    simp only [List.length_append, List.length_reverse, List.length_cons] at isLength
    simp only [Reader.position, List.length_cons] at laterBehind
    have notBarrier := inReach taken.length (by omega) mark isMark
    rw [isBarrier] at notBarrier
    cases notBarrier

/-! ## Parses side by side -/

/-- A reader with the same tokens to come as a state, apart from the case of the keywords that are
reported from the state on. -/
structure Follows (catalog : Catalog) (state : State) (other : Reader) : Prop where
  samePosition : state.reader.position = other.position
  ascend : state.reader.offsets.Pairwise (· < ·)
  otherAscend : other.offsets.Pairwise (· < ·)
  respelled : Token.Respelled
    (fun index => KeywordAt (state.parse catalog).events (state.reader.position + index))
    (Scan.contents state.reader.rest) (Scan.contents other.rest)

namespace Follows

variable {catalog : Catalog} {stack : List Concept} {reader other : Reader} {keyword : Token}
  {tail : List Token}

/-- The next token may differ in case only, and not even so where it is a mark. -/
theorem exists_cons
    (follows : Follows catalog ⟨stack, reader⟩ other)
    (isRest : reader.rest = keyword :: tail) :
    ∃ otherKeyword otherTail, other.rest = otherKeyword :: otherTail ∧
      keyword.kind.Interchangeable otherKeyword.kind ∧
      sameKeyword keyword.value otherKeyword.value = true ∧
      (∀ mark, keyword.isSpecial mark = otherKeyword.isSpecial mark) ∧
      Token.Respelled (fun index => KeywordAt (State.parse catalog ⟨stack, reader⟩).events
        (reader.position + (1 + index))) (Scan.contents tail) (Scan.contents otherTail) := by
  have respelled := follows.respelled
  rw [show (State.mk stack reader).reader.rest = keyword :: tail from isRest] at respelled
  obtain ⟨otherKeyword, otherTail, isOtherRest, kinds, values, later⟩ := respelled.exists_cons
  refine ⟨otherKeyword, otherTail, isOtherRest, kinds, ?_, ?_, later⟩
  · rcases values with sameValue | ⟨-, sameLetters⟩
    · rw [sameValue]
      exact decide_eq_true rfl
    · exact sameLetters
  · intro mark
    rcases values with sameValue | ⟨isKeyword, -⟩
    · exact Token.SameWord.isSpecial_eq ⟨kinds, sameValue⟩ mark
    · have isText := isText_of_keywordAt isKeyword keyword (by simp [Reader.peek?, isRest])
      rw [isSpecial_eq_false_of_isText isText,
        isSpecial_eq_false_of_isText (Token.isText_eq kinds ▸ isText)]

/-- A concept is read from both in the same way. -/
theorem readConcept_agrees
    (follows : Follows catalog ⟨stack, reader⟩ other)
    (isRest : reader.rest = keyword :: tail)
    (isSole : SoleKeyword catalog ⟨stack, reader⟩ tail) :
    ∃ otherKeyword otherTail, other.rest = otherKeyword :: otherTail ∧
      (∀ mark, keyword.isSpecial mark = otherKeyword.isSpecial mark) ∧
      Agrees (SameIndex reader.offsets other.offsets) SameReading
        (readConcept catalog stack reader keyword).2
        (readConcept catalog stack other otherKeyword).2 := by
  obtain ⟨otherKeyword, otherTail, isOtherRest, kinds, sameLetters, sameMarks, later⟩ :=
    follows.exists_cons isRest
  exact ⟨otherKeyword, otherTail, isOtherRest, sameMarks,
    readConcept_beside catalog stack isRest isOtherRest follows.samePosition follows.ascend
      follows.otherAscend kinds sameLetters (later.alike isSole)⟩

/-- The concept that is read up to its mark is read so from both. -/
theorem exists_mark
    {mark : Token} {consumed behind : List Token} {stop : Nat} {concept : Concept}
    (follows : Follows catalog ⟨stack, reader⟩ other)
    (isRest : reader.rest = keyword :: tail)
    (isRead : (readConcept catalog stack reader keyword).2 =
      .ok (concept, ⟨consumed, mark :: behind, stop⟩))
    (isSole : SoleKeyword catalog ⟨stack, reader⟩ tail) :
    ∃ otherKeyword otherTail otherConsumed otherMark otherBehind otherStop,
      other.rest = otherKeyword :: otherTail ∧
      (readConcept catalog stack other otherKeyword).2 =
        .ok (concept, ⟨otherConsumed, otherMark :: otherBehind, otherStop⟩) ∧
      mark.SameWord otherMark ∧ consumed.length = otherConsumed.length := by
  obtain ⟨otherKeyword, otherTail, isOtherRest, -, agrees⟩ :=
    follows.readConcept_agrees isRest isSole
  rw [isRead] at agrees
  obtain ⟨⟨_, otherConsumed, otherRest, otherStop⟩, isOther, rfl, beside⟩ := agrees.exists_ok
  obtain ⟨otherMark, otherBehind, rfl, same, -⟩ := beside.exists_cons
  exact ⟨_, _, _, _, _, _, isOtherRest, isOther, same, beside.samePosition⟩

/-- What follows a state also follows the state behind a step, if it goes as far. -/
theorem of_step
    {state later : State} {next : Reader} {events others : List Event}
    {concepts otherConcepts : List Concept} {otherStack : List Concept}
    (follows : Follows catalog state other)
    (step : Step catalog state events concepts later)
    (otherStep : Step catalog ⟨stack, other⟩ others otherConcepts ⟨otherStack, next⟩)
    (samePosition : later.reader.position = next.position) :
    Follows catalog later next := by
  have isFurther := step.position_lt
  have isRest := step.reaches.rest_eq_drop
  have isOtherRest := otherStep.reaches.rest_eq_drop
  refine ⟨samePosition, ?_, ?_, ?_⟩
  · rw [step.reaches.offsets_eq]
    exact follows.ascend
  · rw [otherStep.reaches.offsets_eq]
    exact follows.otherAscend
  · -- The keyword of the step itself is consumed, so those that are reported still come later.
    rw [isRest, isOtherRest, ← samePosition, ← follows.samePosition, Scan.contents, Scan.contents,
      List.map_drop, List.map_drop]
    refine (follows.respelled.drop _).mono fun index isKeyword => ?_
    rcases step.keywordAt_parse isKeyword with ⟨atStart, -⟩ | isLater
    · omega
    · rwa [← Nat.add_assoc, Nat.add_sub_cancel' (Nat.le_of_lt isFurther)] at isLater

end Follows

/-- A step has its like on the other side, and what follows goes on following. -/
theorem Step.followed
    {catalog : Catalog} {state later : State} {other : Reader} {events : List Event}
    {concepts : List Concept}
    (step : Step catalog state events concepts later)
    (follows : Follows catalog state other) :
    ∃ others next, Step catalog ⟨state.stack, other⟩ others concepts ⟨later.stack, next⟩ ∧
      Follows catalog later next := by
  obtain ⟨otherConsumed, otherRest, otherStop⟩ := other
  have original := step
  cases step with
  | @closes innermost outer last brace consumed behind stop isBrace =>
    obtain ⟨otherBrace, otherBehind, rfl, -, -, sameMarks, -⟩ := follows.exists_cons rfl
    obtain ⟨otherLast, otherConsumed, rfl⟩ :=
      List.exists_cons_of_length_eq_add_one follows.samePosition.symm
    have otherStep : Step catalog ⟨innermost :: outer,
        ⟨otherLast :: otherConsumed, otherBrace :: otherBehind, otherStop⟩⟩ _ _ _ :=
      .closes (sameMarks _ ▸ isBrace)
    exact ⟨_, _, otherStep,
      follows.of_step original otherStep (congrArg Nat.succ follows.samePosition)⟩
  | @ends stack reader keyword mark tail concept consumed behind stop isRest isRead isMark =>
    have isBarrier := Token.isBarrier_of_isSpecial isMark (by decide)
    obtain ⟨otherKeyword, otherTail, behindMark, otherMark, otherBehind, stop, isOtherRest, isOther,
      same, sameLength⟩ :=
      follows.exists_mark isRest isRead (original.soleKeyword isRest isRead isBarrier)
    have otherStep := Step.ends isOtherRest isOther (same.isSpecial_eq ";" ▸ isMark)
    exact ⟨_, _, otherStep, follows.of_step original otherStep (congrArg Nat.succ sameLength)⟩
  | @opens stack reader keyword mark tail concept consumed behind stop isRest isRead isMark =>
    have isBarrier := Token.isBarrier_of_isSpecial isMark (by decide)
    obtain ⟨otherKeyword, otherTail, behindMark, otherMark, otherBehind, stop, isOtherRest, isOther,
      same, sameLength⟩ :=
      follows.exists_mark isRest isRead (original.soleKeyword isRest isRead isBarrier)
    have otherStep := Step.opens isOtherRest isOther (same.isSpecial_eq "\x7b" ▸ isMark)
    exact ⟨_, _, otherStep, follows.of_step original otherStep (congrArg Nat.succ sameLength)⟩

/-- A halt has its like on the other side. -/
theorem Halts.followed
    {catalog : Catalog} {state : State} {other : Reader} {parse : Parse}
    (halts : Halts catalog state parse)
    (follows : Follows catalog state other) :
    ∃ otherParse, Halts catalog ⟨state.stack, other⟩ otherParse ∧
      Agrees (SameIndex state.reader.offsets other.offsets) Eq parse.outcome
        otherParse.outcome := by
  have sameFault := Reader.sameIndex_faultOffset follows.samePosition
  have isSole := halts.soleKeyword
  obtain ⟨otherConsumed, otherRest, otherStop⟩ := other
  cases halts with
  | finished =>
    obtain rfl := follows.respelled.eq_nil
    exact ⟨_, .finished, .ok rfl⟩
  | unclosed =>
    obtain rfl := follows.respelled.eq_nil
    exact ⟨_, .unclosed, .error sameFault⟩
  | @unopened last brace consumed behind stop isBrace =>
    obtain ⟨otherBrace, otherBehind, rfl, -, -, sameMarks, -⟩ := follows.exists_cons rfl
    obtain ⟨otherLast, otherConsumed, rfl⟩ :=
      List.exists_cons_of_length_eq_add_one follows.samePosition.symm
    exact ⟨_, .unopened (sameMarks _ ▸ isBrace), .error sameFault⟩
  | @unread stack reader keyword tail fault isRest atConcept isFault =>
    obtain ⟨otherKeyword, otherTail, isOtherRest, sameMarks, agrees⟩ :=
      follows.readConcept_agrees isRest (isSole tail)
    rw [isFault] at agrees
    obtain ⟨otherFault, isOther, sameOffset⟩ := agrees.exists_error
    refine ⟨_, .unread isOtherRest ?_ isOther, .error sameOffset⟩
    rcases atConcept with nothing | noBrace
    · left
      apply List.eq_nil_of_length_eq_zero
      exact follows.samePosition.symm.trans (congrArg List.length nothing)
    · right
      rw [← sameMarks, noBrace]
  | @unended stack reader next keyword tail concept isRest isRead noMark =>
    obtain ⟨otherKeyword, otherTail, isOtherRest, -, agrees⟩ :=
      follows.readConcept_agrees isRest (isSole tail)
    rw [isRead] at agrees
    obtain ⟨⟨_, otherNext⟩, isOther, rfl, beside⟩ := agrees.exists_ok
    have reached := (readConcept_shorter isRest isRead).1.offsets_eq
    have otherReached := (readConcept_shorter isOtherRest isOther).1.offsets_eq
    have sameEnd := Reader.sameIndex_faultOffset beside.samePosition
    rw [reached, otherReached] at sameEnd
    refine ⟨_, .unended isOtherRest isOther ?_, .error sameEnd⟩
    intro otherMark isNext
    obtain ⟨mark, isMark, same⟩ := beside.exists_peek isNext
    rw [← same.isSpecial_eq, ← same.isSpecial_eq]
    exact noMark mark isMark

/-- A parse and one that follows it end in agreement. -/
theorem Follows.parse_agrees
    {catalog : Catalog} {state : State} {other : Reader}
    (follows : Follows catalog state other) :
    Agrees (SameIndex state.reader.offsets other.offsets) Eq (state.parse catalog).outcome
      (State.parse catalog ⟨state.stack, other⟩).outcome := by
  obtain ⟨events, concepts, halted, parse, steps, halts⟩ := exists_steps_halts catalog state
  induction steps generalizing other with
  | refl =>
    obtain ⟨otherParse, otherHalts, agrees⟩ := halts.followed follows
    rw [parse_of_halts halts, parse_of_halts otherHalts]
    exact agrees
  | head step _ inductionHypothesis =>
    obtain ⟨others, next, otherStep, laterFollows⟩ := step.followed follows
    have agrees := inductionHypothesis laterFollows halts
    rw [step.reaches.offsets_eq, otherStep.reaches.offsets_eq] at agrees
    rw [parse_of_step step, parse_of_step otherStep]
    exact agrees.map _

end Parse

/-! ## Scripts -/

theorem Catalog.parse_agrees_of_respelled
    {catalog : Catalog} {first second : List Token} {firstStop secondStop : Nat}
    (firstAscend : (Token.offsets first firstStop).Pairwise (· < ·))
    (secondAscend : (Token.offsets second secondStop).Pairwise (· < ·))
    (respelled : Token.Respelled (Parse.KeywordAt (catalog.parse first firstStop).events)
      (Scan.contents first) (Scan.contents second)) :
    Parse.Agrees
      (SameIndex (Token.offsets first firstStop) (Token.offsets second secondStop)) Eq
      (catalog.parse first firstStop).outcome (catalog.parse second secondStop).outcome := by
  have fromStart : ∀ index, Parse.KeywordAt (catalog.parse first firstStop).events index →
      Parse.KeywordAt (catalog.parse first firstStop).events (0 + index) := by
    intro index isKeyword
    rwa [Nat.zero_add]
  have follows : Parse.Follows catalog (.initial first firstStop) (.ofTokens second secondStop) :=
    ⟨rfl, firstAscend, secondAscend, respelled.mono fromStart⟩
  exact follows.parse_agrees

/-- The offsets that faults of a scanned text are reported at ascend. -/
theorem Scan.ascend_offsets (source : List Char) :
    (Token.offsets (ofChars source).tokens (Text.byteSize source)).Pairwise (· < ·) := by
  have lies := lies_ofChars source
  refine List.pairwise_append.2 ⟨?_, List.pairwise_singleton _ _, ?_⟩
  · exact List.pairwise_map.2 (lies.starts_increase.filter _)
  · intro start isStart stop isStop
    obtain rfl := List.mem_singleton.1 isStop
    obtain ⟨token, isToken, rfl⟩ := List.mem_map.1 isStart
    have isInside := lies.inside token (List.mem_filter.1 isToken).1
    omega

/-- A script as it is written down: blanks, and lexemes that are kept apart. -/
structure Layout where
  leading : List Char
  pieces : List Piece
  leadingBlank : leading.all Text.isBlank = true
  apart : Piece.Apart pieces

namespace Layout

def source (layout : Layout) : List Char :=
  layout.leading ++ Piece.written layout.pieces

/-- What is written, without blanks and comments. -/
def words (layout : Layout) : List (Token.Kind × String) :=
  (layout.pieces.map fun piece => (piece.draft.kind, piece.draft.value)).filter
    fun word => word.1 ≠ .comment

def tokens (layout : Layout) : List Token :=
  (Scan.ofChars layout.source).tokens

theorem scan_source (layout : Layout) :
    (Scan.ofChars layout.source).fault = none ∧ Scan.contents layout.tokens = layout.words := by
  have isScan : Scan.ofChars layout.source =
      Scan.ofCharsFrom (0 + Text.byteSize layout.leading) (Piece.written layout.pieces) :=
    Scan.ofCharsFrom_of_blank 0 (List.dropWhile_eq_nil_iff.2 (List.all_eq_true.1 layout.leadingBlank)) _
  obtain ⟨noFault, isContents⟩ := Scan.contents_ofCharsFrom_written layout.apart
    (0 + Text.byteSize layout.leading)
  rw [← isScan] at noFault isContents
  refine ⟨noFault, ?_⟩
  rw [words, ← isContents]
  simp [tokens, Scan.tokens, Scan.contents, Token.isComment, List.filter_map, Function.comp_def]

theorem parseScript_source (catalog : Catalog) (layout : Layout) :
    catalog.parseScript layout.source =
      (catalog.parse layout.tokens (Text.byteSize layout.source)).outcome := by
  unfold Catalog.parseScript
  simp only [layout.scan_source.1, tokens]

end Layout

namespace Catalog

/-- **Layout and spelling do not matter.** Two lists of tokens are given, each with its end. They
say the same position by position, where names and quoted text are interchangeable, and the keywords
that the first parse reports may be written in another case. Then both parses read the same
concepts, or both are refused at the same token or at the end. The same holds of scripts, however
their lexemes are laid out with blanks and comments. -/
theorem parse_respelled (catalog : Catalog) :
    (∀ (first second : List Token) (firstStop secondStop : Nat),
      (Token.offsets first firstStop).Pairwise (· < ·) →
      (Token.offsets second secondStop).Pairwise (· < ·) →
      Token.Respelled (Parse.KeywordAt (catalog.parse first firstStop).events)
        (Scan.contents first) (Scan.contents second) →
      Parse.Agrees
        (Token.SameIndex (Token.offsets first firstStop) (Token.offsets second secondStop)) Eq
        (catalog.parse first firstStop).outcome (catalog.parse second secondStop).outcome) ∧
      ∀ layout other : Layout,
        Token.Respelled
          (Parse.KeywordAt (catalog.parse layout.tokens (Text.byteSize layout.source)).events)
          layout.words other.words →
        Parse.Agrees
          (Token.SameIndex (Token.offsets layout.tokens (Text.byteSize layout.source))
            (Token.offsets other.tokens (Text.byteSize other.source))) Eq
          (catalog.parseScript layout.source) (catalog.parseScript other.source) := by
  constructor
  · intro first second firstStop secondStop firstAscend secondAscend respelled
    exact parse_agrees_of_respelled firstAscend secondAscend respelled
  · intro layout other respelled
    rw [← layout.scan_source.2, ← other.scan_source.2] at respelled
    rw [layout.parseScript_source, other.parseScript_source]
    exact parse_agrees_of_respelled (Scan.ascend_offsets layout.source)
      (Scan.ascend_offsets other.source) respelled

def entity : ConceptType :=
  ⟨"Entity", some "Entity", "", [], [⟨"Name", .text, none⟩]⟩

def entities : Catalog :=
  ⟨[entity], by decide +kernel⟩

/-- A lexeme with blanks behind it, which are seen to be blank by looking at them. -/
def spaced (draft : Draft) (blanks : List Char) (allBlank : blanks.all Text.isBlank = true) :
    Piece :=
  ⟨draft, blanks, List.all_eq_true.1 allBlank⟩

/-- An entity on one line, with no more blanks than are needed. -/
def onOneLine : Layout where
  leading := []
  pieces :=
    [spaced (.name "Entity" (List.cons_ne_nil _ _) (List.all_eq_true.1 (by decide +kernel)))
        [' '] rfl,
      spaced (.name "Book" (List.cons_ne_nil _ _) (List.all_eq_true.1 (by decide +kernel))) [] rfl,
      spaced (.special ';' rfl) [] rfl]
  leadingBlank := rfl
  apart := ⟨List.cons_ne_nil _ _, trivial, trivial, trivial⟩

theorem isQuote_double : Lexeme.isQuote '"' = true :=
  rfl

/-- The same with another case, a comment and quotes. -/
def onTwoLines : Layout where
  leading := ['\n']
  pieces :=
    [spaced (.name "eNTITY" (List.cons_ne_nil _ _) (List.all_eq_true.1 (by decide +kernel))) [] rfl,
      spaced (.comment "" (List.forall_mem_nil _)) ['\n'] rfl,
      spaced (.literal '"' "Book" isQuote_double) [' '] rfl,
      spaced (.special ';' rfl) [] rfl]
  leadingBlank := rfl
  apart := ⟨trivial, ⟨'\n', rfl, rfl⟩, trivial, trivial, trivial⟩

/-- The entity is read from both layouts. Without its name it is refused at the end of both. -/
theorem parse_respelled_on_two_lines :
    onOneLine.source = "Entity Book;".toList ∧
      onTwoLines.source = "\neNTITY//\n\"Book\" ;".toList ∧
      Token.Respelled
        (Parse.KeywordAt (entities.parse onOneLine.tokens (Text.byteSize onOneLine.source)).events)
        onOneLine.words onTwoLines.words ∧
      entities.parseScript onTwoLines.source = .ok [⟨entity, ["Book"]⟩] ∧
      Parse.Agrees (Token.SameIndex [0, 6] [1, 15]) Eq
        (entities.parse [⟨.identifier, "Entity", 0, 6⟩] 6).outcome
        (entities.parse [⟨.identifier, "eNTITY", 1, 7⟩] 15).outcome := by
  have respelled : Token.Respelled
      (Parse.KeywordAt (entities.parse onOneLine.tokens (Text.byteSize onOneLine.source)).events)
      onOneLine.words onTwoLines.words := by
    have isKeyword : Parse.KeywordAt
        (entities.parse onOneLine.tokens (Text.byteSize onOneLine.source)).events 0 := by
      decide +kernel
    have isWords : onOneLine.words =
        [(.identifier, "Entity"), (.identifier, "Book"), (.special, ";")] := by
      decide +kernel
    have isOther : onTwoLines.words =
        [(.identifier, "eNTITY"), (.stringLiteral, "Book"), (.special, ";")] := by
      decide +kernel
    rw [isWords, isOther]
    refine ⟨rfl, ?_, ?_⟩
    · rintro (_ | _ | _ | index) word other ⟨⟩ ⟨⟩ <;> trivial
    · rintro (_ | _ | _ | index) word other ⟨⟩ ⟨⟩
      · exact .inr ⟨isKeyword, by decide⟩
      · exact .inl rfl
      · exact .inl rfl
  have unfinished : Token.Respelled
      (Parse.KeywordAt (entities.parse [⟨.identifier, "Entity", 0, 6⟩] 6).events)
      [(.identifier, "Entity")] [(.identifier, "eNTITY")] := by
    refine ⟨rfl, ?_, ?_⟩
    · rintro (_ | index) word other ⟨⟩ ⟨⟩
      trivial
    · rintro (_ | index) word other ⟨⟩ ⟨⟩
      exact .inr (by decide +kernel)
  have isRead : entities.parseScript onOneLine.source = .ok [⟨entity, ["Book"]⟩] := by
    decide +kernel
  have agrees := (parse_respelled entities).2 onOneLine onTwoLines respelled
  rw [isRead] at agrees
  refine ⟨by decide +kernel, by decide +kernel, respelled, agrees.eq_ok, ?_⟩
  exact (parse_respelled entities).1 [⟨.identifier, "Entity", 0, 6⟩]
    [⟨.identifier, "eNTITY", 1, 7⟩] 6 15 (by decide) (by decide) unfinished

end Catalog

end ConceptScript
