import ConceptScript.Proofs.Analysis.CursorLine
import ConceptScript.Proofs.Analysis.EnclosingBlocks

/-!
Contract: the tokens in front of the place where a word is typed, and the cursor there.

A word is typed between two tokens, or it is the last token that the position touches. What the
cursor records comes from the text up to the end of the line, with all the faults that may follow on
it. Where the tokens in front end at a boundary between concepts, nothing of that matters: the
context are the blocks that are open there, and the keyword is the word itself or nothing.

Owns the tokens in front of an offset, positions outside of comments, and that both may be told from
the whole text as well as from the text up to the end of the line.

Does not own what is offered to be typed.
-/

set_option autoImplicit false

namespace ConceptScript

/-! ## Tokens in front of a position -/

/-- The tokens in front of the place at an offset where a word is typed or could be. -/
inductive Token.InFront (offset : Nat) (tokens : List Token) : List Token → Prop where
  /-- No token lies on the offset, and those count that end in front of it. -/
  | between
      (uncovered : ∀ token ∈ tokens, token.covers offset = false) :
      InFront offset tokens (tokens.filter fun token => token.stop ≤ offset)
  /-- The last token that the offset touches is a name, and those count that stand in front of
  it. -/
  | typed
      {front later : List Token} {word : Token}
      (isName : word.kind = .identifier)
      (isLast : (tokens.reverse.find? fun token => token.touches offset) = some word)
      (isTokens : tokens = front ++ word :: later) :
      InFront offset tokens front

namespace Token

variable {offset : Nat} {tokens front later : List Token} {word : Token}

/-- Tokens that the offset lies on none of fall apart into those in front of it and those behind. -/
theorem Laid.exists_late
    (laid : Laid tokens)
    (uncovered : ∀ token ∈ tokens, token.covers offset = false) :
    ∃ later, tokens = (tokens.filter fun token => token.stop ≤ offset) ++ later ∧
      Construct.Late offset later := by
  induction tokens with
  | nil => exact ⟨[], rfl, by simp [Construct.Late]⟩
  | cons token tokens inductionHypothesis =>
    obtain ⟨tokenOrdered, ordered⟩ := List.pairwise_cons.1 laid.ordered
    obtain ⟨tokenNotEmpty, notEmpty⟩ := List.forall_mem_cons.1 laid.notEmpty
    obtain ⟨tokenUncovered, laterUncovered⟩ := List.forall_mem_cons.1 uncovered
    by_cases endsBefore : token.stop ≤ offset
    · obtain ⟨later, isTokens, late⟩ := inductionHypothesis ⟨notEmpty, ordered⟩ laterUncovered
      refine ⟨later, ?_, late⟩
      rw [List.filter_cons_of_pos (by simpa using endsBefore), List.cons_append, ← isTokens]
    · -- The first token that does not end in front of the offset lies behind it, as all later ones.
      have startsLate : offset < token.start := by
        simp only [covers, Bool.and_eq_false_iff, decide_eq_false_iff_not] at tokenUncovered
        omega
      have allLate : Construct.Late offset (token :: tokens) := by
        intro other isOther
        rcases List.mem_cons.1 isOther with rfl | isLater
        · exact ⟨startsLate, by omega⟩
        · have isBehind := tokenOrdered other isLater
          have otherNotEmpty := notEmpty other isLater
          exact ⟨by omega, by omega⟩
      refine ⟨token :: tokens, ?_, allLate⟩
      rw [List.filter_eq_nil_iff.2, List.nil_append]
      intro other isOther
      have isLate := (allLate other isOther).2
      simp only [decide_eq_true_eq]
      omega

/-- Around the last token that an offset touches stand tokens in front of the offset and tokens
behind it. -/
theorem Laid.apart_of_last
    (laid : Laid (front ++ word :: later))
    (isLast : ((front ++ word :: later).reverse.find? fun token => token.touches offset) =
      some word) :
    word.start ≤ offset ∧ (∀ token ∈ front, token.stop ≤ offset) ∧
      Construct.Late offset later := by
  obtain ⟨-, wordOrdered, frontOrdered⟩ := List.pairwise_append.1 laid.ordered
  have laterOrdered := (List.pairwise_cons.1 wordOrdered).1
  have isTouched := List.find?_some isLast
  simp only [touches, Bool.and_eq_true, decide_eq_true_eq] at isTouched
  have untouched : ∀ token ∈ later, token.touches offset = false := by
    intro token isToken
    apply Bool.eq_false_iff.2
    intro tokenTouched
    have isFound : (later.reverse.find? fun token => token.touches offset).isSome = true :=
      List.find?_isSome.2 ⟨token, List.mem_reverse.2 isToken, tokenTouched⟩
    rw [List.reverse_append, List.reverse_cons, List.append_assoc, List.find?_append,
      Option.or_of_isSome isFound] at isLast
    -- The word itself does not stand behind the word.
    have isLater := List.mem_reverse.1 (List.mem_of_find?_eq_some isLast)
    have isBehind := laterOrdered word isLater
    have notEmpty := laid.notEmpty word (by simp)
    omega
  refine ⟨isTouched.1, ?_, ?_⟩
  · intro token isToken
    have isBefore := frontOrdered token isToken word List.mem_cons_self
    omega
  · intro token isToken
    have isBehind := laterOrdered token isToken
    have notEmpty := laid.notEmpty token (by simp [isToken])
    have notTouched := untouched token isToken
    simp only [touches, Bool.and_eq_false_iff, decide_eq_false_iff_not] at notTouched
    exact ⟨by omega, by omega⟩

variable {behind : List Token}

/-- A literal that the offset lies on cannot be one of the tokens behind it. -/
theorem InFront.late_behind
    (inFront : InFront offset (tokens ++ behind) front)
    (laid : Laid (tokens ++ behind))
    (isBehind : ∀ token ∈ behind, token.IsBehind offset) :
    Construct.Late offset behind := by
  intro token isToken
  have notEmpty := laid.notEmpty token (List.mem_append_right tokens isToken)
  rcases isBehind token isToken with startsLate | ⟨isLiteral, endsLate⟩
  · exact ⟨startsLate, by omega⟩
  · refine ⟨?_, endsLate⟩
    cases inFront with
    | between uncovered =>
      have notCovered := uncovered token (List.mem_append_right tokens isToken)
      simp only [covers, Bool.and_eq_false_iff, decide_eq_false_iff_not] at notCovered
      omega
    | @typed front later word isName isLast isTokens =>
      have isAmong : token ∈ front ++ word :: later := by
        rw [← isTokens]
        exact List.mem_append_right tokens isToken
      rw [isTokens] at laid isLast
      -- A literal is not the word, and in front of the word it would end too early.
      obtain ⟨-, frontBefore, late⟩ := laid.apart_of_last isLast
      rcases List.mem_append.1 isAmong with isFront | isOther
      · have endsBefore := frontBefore token isFront
        omega
      · rcases List.mem_cons.1 isOther with rfl | isLater
        · rw [isLiteral] at isName
          cases isName
        · exact (late token isLater).1

/-- Tokens behind an offset do not matter to what stands in front of it. -/
theorem InFront.of_append
    (inFront : InFront offset (tokens ++ behind) front)
    (late : Construct.Late offset behind) :
    InFront offset tokens front := by
  cases inFront with
  | between uncovered =>
    have noneBefore : (behind.filter fun token => token.stop ≤ offset) = [] := by
      apply List.filter_eq_nil_iff.2
      intro token isToken
      have endsLate := (late token isToken).2
      simp only [decide_eq_true_eq]
      omega
    rw [List.filter_append, noneBefore, List.append_nil]
    exact .between fun token isToken => uncovered token (List.mem_append_left behind isToken)
  | @typed front later word isName isLast isTokens =>
    have untouched : (behind.reverse.find? fun token => token.touches offset) = none := by
      apply List.find?_eq_none.2
      intro token isToken
      have startsLate := (late token (List.mem_reverse.1 isToken)).1
      simp only [touches, Bool.and_eq_true, decide_eq_true_eq, not_and]
      omega
    rw [List.reverse_append, List.find?_append, untouched, Option.none_or] at isLast
    have notBehind : word ∉ behind := by
      intro isToken
      have startsLate := (late word isToken).1
      have isTouched := List.find?_some isLast
      simp only [touches, Bool.and_eq_true, decide_eq_true_eq] at isTouched
      omega
    rcases List.append_eq_append_iff.1 isTokens with
      ⟨more, -, isBehind⟩ | ⟨more, isFront, isRest⟩
    · exact absurd (by simp [isBehind]) notBehind
    · cases more with
      | nil =>
        rw [List.nil_append] at isRest
        exact absurd (isRest ▸ List.mem_cons_self) notBehind
      | cons other more =>
        obtain ⟨rfl, -⟩ := List.cons.inj isRest
        exact .typed isName isLast isFront

end Token

/-! ## The cursor behind a boundary -/

namespace Construct

variable {catalog : Catalog} {offset : Nat}

/-- A step in front of the offset leaves no keyword behind, and the context as it is. -/
theorem after_step_of_before
    {state later : Parse.State} {events : List Event} {concepts : List Concept} {last : Token}
    (step : Parse.Step catalog state events concepts later)
    (laid : Token.Laid state.reader.tokens)
    (isLast : later.reader.last? = some last)
    (endsBefore : last.stop ≤ offset) :
    after offset events ⟨none, state.stack⟩ = ⟨none, later.stack⟩ := by
  have isContext : (after offset events ⟨none, state.stack⟩).context = later.stack := by
    rw [context_after_step step isLast rfl, if_pos endsBefore]
  have isKeyword : (after offset events ⟨none, state.stack⟩).keyword = none := by
    have quiet : Quiet offset (after offset events ⟨none, state.stack⟩) later.reader :=
      quiet_step step laid.starts_increase (.inl rfl)
    rcases quiet with noKeyword | isLate
    · exact noKeyword
    · have startsLate := isLate last isLast
      have notEmpty := laid.notEmpty last (List.mem_append_right _ (step.last_mem_rest isLast))
      omega
  exact Construct.mk.injEq .. |>.mpr ⟨isKeyword, isContext⟩

theorem after_steps_of_before
    {state later : Parse.State} {events : List Event} {concepts : List Concept}
    (steps : Parse.Steps catalog state events concepts later)
    (laid : Token.Laid state.reader.tokens)
    (endBefore : ∀ token ∈ state.reader.rest, token.stop ≤ offset) :
    after offset events ⟨none, state.stack⟩ = ⟨none, later.stack⟩ := by
  induction steps with
  | refl => rfl
  | head step _ inductionHypothesis =>
    obtain ⟨last, isLast⟩ := step.exists_last
    have lastBefore := endBefore last (step.last_mem_rest isLast)
    have laterBefore := fun token isToken => endBefore token (step.rest_subset isToken)
    rw [after_append, after_step_of_before step laid isLast lastBefore,
      inductionHypothesis (laid.of_step step) laterBefore]

section Boundary

variable {front : List Token} {frontStop : Nat} {events : List Event}
  {concepts stack : List Concept}
  (steps : Parse.Steps catalog (.initial front frontStop) events concepts
    ⟨stack, ⟨front.reverse, [], frontStop⟩⟩)
  (laid : Token.Laid front)
  (endBefore : ∀ token ∈ front, token.stop ≤ offset)

include steps laid endBefore

theorem after_parse_of_boundary (rest : List Token) (stop : Nat) :
    after offset (catalog.parse (front ++ rest) stop).events {} =
      after offset (Parse.State.parse catalog ⟨stack, ⟨front.reverse, rest, stop⟩⟩).events
        ⟨none, stack⟩ := by
  have isParse : catalog.parse (front ++ rest) stop =
      (Parse.State.parse catalog ⟨stack, ⟨front.reverse, rest, stop⟩⟩).after
        (events.map (Event.extend rest stop)) concepts := by
    rw [← Parse.parse_initial]
    exact Parse.parse_of_steps (steps.extend rest stop)
  have atBoundary : after offset events {} = ⟨none, stack⟩ :=
    after_steps_of_before steps laid endBefore
  rw [isParse, Parse.after, after_append, after_extend (anchored_steps steps), atBoundary]

theorem after_parse_between
    {later : List Token}
    (late : Late offset later) (stop : Nat) :
    after offset (catalog.parse (front ++ later) stop).events {} = ⟨none, stack⟩ := by
  rw [after_parse_of_boundary steps laid endBefore]
  exact after_parse_of_late catalog late (.inl rfl)

theorem after_parse_typed
    {later : List Token} {word : Token}
    (isName : word.kind = .identifier)
    (startsBefore : word.start ≤ offset)
    (late : Late offset later) (stop : Nat) :
    after offset (catalog.parse (front ++ word :: later) stop).events {} =
      ⟨some word, stack⟩ := by
  have isText : word.isText = true := by simp [Token.isText, isName]
  have noBarrier : ∀ token ∈ [word], token.isBarrier = false := by
    simp [Token.isBarrier, isText]
  have atWord : after offset (Parse.State.parse catalog
        ⟨stack, ⟨front.reverse, [word] ++ later, stop⟩⟩).events ⟨none, stack⟩ =
      step offset ⟨none, stack⟩
        (.keyword ⟨front.reverse, [word] ++ later, stop⟩ (Parse.word word)) :=
    after_parse_of_begun catalog rfl noBarrier late _
  rw [after_parse_of_boundary steps laid endBefore]
  refine atWord.trans ?_
  simp [step, Parse.word, isText, Cursor.boundary?, Reader.peek?, startsBefore]

end Boundary

/-- Behind a boundary the context is that of the open blocks, and a keyword is recorded only where
it is what is being typed. -/
theorem exists_after_of_inFront
    {tokens front : List Token} {frontStop : Nat} {events : List Event}
    {concepts stack : List Concept}
    (steps : Parse.Steps catalog (.initial front frontStop) events concepts
      ⟨stack, ⟨front.reverse, [], frontStop⟩⟩)
    (laid : Token.Laid tokens)
    (inFront : Token.InFront offset tokens front) (stop : Nat) :
    ∃ keyword, after offset (catalog.parse tokens stop).events {} = ⟨keyword, stack⟩ ∧
      ∀ word ∈ keyword, (tokens.reverse.find? fun token => token.touches offset) = some word := by
  cases inFront with
  | between uncovered =>
    obtain ⟨later, isTokens, late⟩ := laid.exists_late uncovered
    have frontLaid := laid.filter fun token => token.stop ≤ offset
    have endBefore : ∀ token ∈ tokens.filter fun token => token.stop ≤ offset,
        token.stop ≤ offset := by
      intro token isToken
      exact of_decide_eq_true (List.mem_filter.1 isToken).2
    refine ⟨none, ?_, by simp⟩
    rw [isTokens]
    exact after_parse_between steps frontLaid endBefore late stop
  | @typed front later word isName isLast isTokens =>
    subst isTokens
    obtain ⟨startsBefore, endBefore, late⟩ := laid.apart_of_last isLast
    refine ⟨some word, ?_, by simpa using isLast⟩
    exact after_parse_typed steps laid.of_append_left endBefore isName startsBefore late stop

end Construct

/-! ## Comments -/

/-- No comment lies on the offset of a position, and none that starts in front of it starts on its
line. -/
def Text.OutsideComments (text : Text) (position : Position) (comments : List Token) : Prop :=
  ∀ comment ∈ comments, comment.covers (text.offsetOf position) = false ∧
    (comment.start ≤ text.offsetOf position →
      (text.positionOf comment.start).line ≠ position.line)

instance (text : Text) (position : Position) (comments : List Token) :
    Decidable (text.OutsideComments position comments) :=
  inferInstanceAs (Decidable (∀ comment ∈ comments, _ ∧ (_ → _)))

theorem Text.OutsideComments.of_subset
    {text : Text} {position : Position} {comments others : List Token}
    (outside : text.OutsideComments position others)
    (subset : comments ⊆ others) :
    text.OutsideComments position comments :=
  fun comment isComment => outside comment (subset isComment)

namespace Analysis

theorem not_isInsideComment
    {text : Text} {line target : Nat} {last : Option Token} {comments : List Token}
    (lastOutside : (last.any fun comment => (text.positionOf comment.start).line == line) = false)
    (outside : ∀ comment ∈ comments, comment.covers target = false ∧
      (comment.start ≤ target → (text.positionOf comment.start).line ≠ line)) :
    isInsideComment text line target last comments = false := by
  induction comments generalizing last with
  | nil => exact lastOutside
  | cons comment comments inductionHypothesis =>
    obtain ⟨⟨notCovered, otherLine⟩, laterOutside⟩ := List.forall_mem_cons.1 outside
    rw [isInsideComment, notCovered, if_neg Bool.false_ne_true]
    split
    · exact lastOutside
    · next notBehind =>
      refine inductionHypothesis ?_ laterOutside
      simpa using otherLine (by omega)

end Analysis

/-! ## The text up to the end of the line -/

namespace Text.Cut

variable {text cut : Text} {position : Position} {stream : Stream}

/-- What stands in front of a position may be told from the whole text or from the text up to the
end of the line. -/
theorem inFront_cut
    {front : List Token}
    (isCut : Cut text position cut)
    (isStream : stream = .ofText text ∨ stream = .ofText cut)
    (inFront : Token.InFront (text.offsetOf position) stream.tokens front) :
    Token.InFront (text.offsetOf position) (Stream.ofText cut).tokens front := by
  rcases isStream with rfl | rfl
  · obtain ⟨later, isRaw, isBehind⟩ := isCut.exists_raw_behind
    have isTokens : (Stream.ofText text).tokens =
        (Stream.ofText cut).tokens ++ later.filter fun token => !token.isComment := by
      simp only [Stream.ofText, Scan.tokens, isRaw, List.filter_append]
    have laid := Stream.laid_tokens text
    rw [isTokens] at inFront laid
    apply inFront.of_append
    apply inFront.late_behind laid
    intro token isToken
    exact isBehind token (List.mem_filter.1 isToken).1
  · exact inFront

theorem comments_subset
    (isCut : Cut text position cut)
    (isStream : stream = .ofText text ∨ stream = .ofText cut) :
    (Stream.ofText cut).comments ⊆ stream.comments := by
  rcases isStream with rfl | rfl
  · obtain ⟨later, isRaw, -⟩ := isCut.exists_raw_behind
    have isComments : (Stream.ofText text).comments =
        (Stream.ofText cut).comments ++ later.filter Token.isComment := by
      simp only [Stream.ofText, Scan.comments, isRaw, List.filter_append]
    rw [isComments]
    exact List.subset_append_left _ _
  · exact List.Subset.refl _

theorem not_isInsideComment
    (isCut : Cut text position cut)
    (outside : text.OutsideComments position (Stream.ofText cut).comments) :
    Analysis.isInsideComment cut position.line (cut.offsetOf position) none
      (Stream.ofText cut).comments = false := by
  apply Analysis.not_isInsideComment rfl
  intro comment isComment
  obtain ⟨notCovered, otherLine⟩ := outside comment isComment
  obtain ⟨-, notEmpty, isInside⟩ :=
    (Scan.lies_ofChars cut.chars).inside comment (List.mem_filter.1 isComment).1
  rw [isCut.offsetOf_eq, ← isCut.positionOf_eq (Nat.lt_of_lt_of_le notEmpty isInside)]
  exact ⟨notCovered, otherLine⟩

end Text.Cut

end ConceptScript
