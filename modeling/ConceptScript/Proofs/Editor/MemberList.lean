import ConceptScript.Proofs.Editor.OfferedKeywords

/-!
Contract: what is offered between the keyword of a concept and the mark behind it.

There only members can be typed. The cursor knows the keyword up to the mark, but it takes the
position directly in front of the mark for one behind the concept. So keywords are offered there,
those of all types that may stand where the concept stands, and among them always its own.

Owns the construct inside of a concept that is read up to its mark.

Does not own concepts without mark, at which the parse breaks off.
-/

set_option autoImplicit false

namespace ConceptScript

namespace Parse

/-- A concept is read only at a keyword of a type that may stand there. -/
theorem exists_applicable_of_readConcept
    {catalog : Catalog} {stack : List Concept} {reader : Reader} {keyword : Token}
    {reading : Concept × Reader}
    (isRead : (readConcept catalog stack reader keyword).2 = .ok reading) :
    ∃ type ∈ catalog.typesFor keyword.value, applicable stack type = true := by
  rw [readConcept_of_isText (isText_of_readConcept isRead)] at isRead
  obtain ⟨attempted, isAttempted, -⟩ := mem_of_choose isRead
  obtain ⟨type, isType, rfl⟩ := List.mem_map.1 isAttempted
  exact ⟨type, List.mem_filter.1 isType⟩

theorem Step.exists_applicable
    {catalog : Catalog} {state later : State} {events : List Event} {concept : Concept}
    {keyword : Token}
    (step : Step catalog state events [concept] later)
    (isKeyword : state.reader.peek? = some keyword) :
    ∃ type ∈ catalog.typesFor keyword.value, applicable state.stack type = true := by
  cases step with
  | ends isRest isRead =>
    obtain rfl := Option.some.inj (isKeyword.symm.trans (Reader.peek?_of_rest isRest))
    exact exists_applicable_of_readConcept isRead
  | opens isRest isRead =>
    obtain rfl := Option.some.inj (isKeyword.symm.trans (Reader.peek?_of_rest isRest))
    exact exists_applicable_of_readConcept isRead

end Parse

namespace Construct

variable {catalog : Catalog} {state later : Parse.State} {events : List Event}
  {concepts : List Concept} {offset : Nat}

/-- Between the keyword and the end of the mark, the concept decides. -/
theorem after_parse_of_reads
    {concept : Concept} {keyword mark : Token}
    (step : Parse.Step catalog state events [concept] later)
    (laid : Token.Laid state.reader.tokens)
    (isKeyword : state.reader.peek? = some keyword)
    (isMark : later.reader.last? = some mark)
    (startsBefore : keyword.start ≤ offset)
    (endsBehind : offset < mark.stop) :
    after offset (state.parse catalog).events ⟨none, state.stack⟩ =
      ⟨if mark.start ≤ offset then none else some keyword, state.stack⟩ := by
  have late := (laid.of_step step).late_rest isMark endsBehind
  have quiet : Quiet offset (after offset events ⟨none, state.stack⟩) later.reader :=
    quiet_step step laid.starts_increase (.inl rfl)
  have isActive : (after offset events ⟨none, state.stack⟩).keyword =
      if mark.start ≤ offset then none else some keyword := by
    rw [keyword_after_reads step isKeyword isMark, if_pos startsBefore]
  have isContext : (after offset events ⟨none, state.stack⟩).context = state.stack := by
    rw [context_after_step step isMark rfl, if_neg (by omega)]
  rw [Parse.parse_of_step step, Parse.after, after_append, after_parse_of_late catalog late quiet]
  exact Construct.mk.injEq .. |>.mpr ⟨isActive, isContext⟩

/-- A step in front of a token that starts in front of the offset may be left out. -/
theorem after_parse_of_step_before
    {token : Token}
    (step : Parse.Step catalog state events concepts later)
    (laid : Token.Laid state.reader.tokens)
    (toCome : token ∈ later.reader.rest)
    (startsBefore : token.start ≤ offset) :
    after offset (state.parse catalog).events ⟨none, state.stack⟩ =
      after offset (later.parse catalog).events ⟨none, later.stack⟩ := by
  obtain ⟨last, isLast⟩ := step.exists_last
  have isConsumed : last ∈ later.reader.consumed.reverse :=
    List.mem_reverse.2 (List.mem_of_mem_head? isLast)
  have isOrdered : last.stop ≤ token.start :=
    (List.pairwise_append.1 (laid.of_step step).ordered).2.2 last isConsumed token toCome
  rw [Parse.parse_of_step step, Parse.after, after_append,
    after_step_of_before step laid isLast (Nat.le_trans isOrdered startsBefore)]

/-- Inside of a concept that is read, its keyword is active up to the mark, and the context allows
a type of the keyword. -/
theorem exists_after_of_reads
    {moves : List Parse.Move} {concept : Concept} {keyword mark : Token}
    (trace : Parse.Trace catalog state moves)
    (laid : Token.Laid state.reader.tokens)
    (isMove : .reads concept keyword mark ∈ moves)
    (startsBefore : keyword.start ≤ offset)
    (endsBehind : offset < mark.stop) :
    ∃ stack, (∃ type ∈ catalog.typesFor keyword.value, Parse.applicable stack type = true) ∧
      after offset (state.parse catalog).events ⟨none, state.stack⟩ =
        ⟨if mark.start ≤ offset then none else some keyword, stack⟩ := by
  induction trace with
  | reads step isKeyword isMark goesOn inductionHypothesis =>
    rcases List.mem_cons.1 isMove with isHere | isLater
    · cases isHere
      exact ⟨_, step.exists_applicable isKeyword,
        after_parse_of_reads step laid isKeyword isMark startsBefore endsBehind⟩
    · have toCome := goesOn.mem_rest _ isLater keyword List.mem_cons_self
      rw [after_parse_of_step_before step laid toCome startsBefore]
      exact inductionHypothesis (laid.of_step step) isLater
  | closes step isBrace goesOn inductionHypothesis =>
    have isLater := (List.mem_cons.1 isMove).resolve_left (by simp)
    have toCome := goesOn.mem_rest _ isLater keyword List.mem_cons_self
    rw [after_parse_of_step_before step laid toCome startsBefore]
    exact inductionHypothesis (laid.of_step step) isLater
  | breaksOff => simp at isMove
  | stops => cases isMove

end Construct

/-! ## What is offered inside of a concept -/

namespace Analysis

variable {catalog : Catalog} {text : Text} {position : Position} {keyword : Token}

/-- Outside of comments the construct of the cursor is that of the events. -/
theorem construct_of_outside
    (outside : (ofText catalog text position).insideComment = false) :
    (ofText catalog text position).cursor.construct =
      Construct.after (text.offsetOf position)
        (catalog.parse (Stream.ofText text).tokens (Stream.ofText text).stop).events {} := by
  have isCursor : (ofText catalog text position).cursor =
      .ofEvents (.ofTokens (Stream.ofText text).tokens (text.offsetOf position))
        (catalog.parse (Stream.ofText text).tokens (Stream.ofText text).stop).events := by
    have notInside : isInsideComment text position.line (text.offsetOf position) none
        (Stream.ofText text).comments = false := outside
    simp only [ofText, notInside]
    rfl
  rw [isCursor]
  exact Construct.construct_ofEvents _ _

/-- The cursor inside of a concept that is read. -/
theorem cursor_of_reads
    {moves : List Parse.Move} {concept : Concept} {mark : Token}
    (trace : Parse.Trace catalog
      (.initial (Stream.ofText text).tokens (Stream.ofText text).stop) moves)
    (isMove : .reads concept keyword mark ∈ moves)
    (isBehind : keyword.stop < text.offsetOf position)
    (notBehind : text.offsetOf position ≤ mark.start)
    (outside : (ofText catalog text position).insideComment = false) :
    ((ofText catalog text position).cursor.keyword =
        if mark.start ≤ text.offsetOf position then none else some keyword) ∧
      ∃ type ∈ catalog.typesFor keyword.value,
        Parse.applicable (ofText catalog text position).cursor.context type = true := by
  have laid := Stream.laid_tokens text
  have startsBefore : keyword.start ≤ text.offsetOf position := by
    have notEmpty := laid.notEmpty keyword (trace.mem_rest _ isMove keyword List.mem_cons_self)
    omega
  have endsBehind : text.offsetOf position < mark.stop := by
    have isToken := trace.mem_rest _ isMove mark (List.mem_cons_of_mem _ List.mem_cons_self)
    have notEmpty := laid.notEmpty mark isToken
    omega
  obtain ⟨stack, isAllowed, isAfter⟩ :=
    Construct.exists_after_of_reads trace laid isMove startsBefore endsBehind
  obtain ⟨isKeyword, rfl⟩ := Construct.mk.inj ((construct_of_outside outside).trans isAfter)
  exact ⟨isKeyword, isAllowed⟩

theorem completions_of_insideComment
    {analysis : Analysis}
    (isInside : analysis.insideComment = true) :
    analysis.completions catalog position = [] := by
  simp [completions, offersKeywords, isInside]

/-- Behind the active keyword nothing is offered. -/
theorem completions_behind_keyword
    (catalog : Catalog) {analysis : Analysis}
    (isKeyword : analysis.cursor.keyword = some keyword)
    (isBehind : keyword.stop < analysis.text.offsetOf position) :
    analysis.completions catalog position = [] := by
  have notTyped : analysis.typedAt? position ≠ some keyword := by
    intro isTyped
    have isTouched := List.find?_some isTyped
    simp only [Token.touches, Bool.and_eq_true, decide_eq_true_eq] at isTouched
    omega
  simp [completions, offersKeywords, isKeyword, notTyped]

/-- Without active keyword something is offered wherever a type of some word may stand. -/
theorem completions_ne_nil
    {analysis : Analysis} {type : ConceptType} {word : String}
    (isOutside : analysis.insideComment = false)
    (noKeyword : analysis.cursor.keyword = none)
    (isType : type ∈ catalog.typesFor word)
    (isApplicable : Parse.applicable analysis.cursor.context type = true) (position : Position) :
    analysis.completions catalog position ≠ [] := by
  have offers : analysis.offersKeywords position = true := by
    rw [offersKeywords, isOutside, noKeyword]
    rfl
  obtain ⟨keyword, isOffered, -⟩ :=
    (catalog.exists_sameKeyword_iff analysis.cursor.context word).2 ⟨type, isType, isApplicable⟩
  rw [completions, if_pos offers]
  exact List.ne_nil_of_mem isOffered

end Analysis

/-- **Members are typed without keywords being offered, up to the mark.** Behind the keyword of a
concept that the parser has read, and not behind its mark, nothing is offered exactly where the
position lies in a comment or does not touch the mark. -/
theorem Document.completions_in_members_iff
    (catalog : Catalog) (text : Text) (position : Position) {moves : List Parse.Move}
    {concept : Concept} {keyword mark : Token}
    (trace : Parse.Trace catalog
      (.initial (Stream.ofText (text.cutAfterLine (text.offsetOf position))).tokens
        (Stream.ofText (text.cutAfterLine (text.offsetOf position))).stop) moves)
    (isMove : .reads concept keyword mark ∈ moves)
    (isBehind : keyword.stop < text.offsetOf position)
    (notBehind : text.offsetOf position ≤ mark.start) :
    (Document.completions ⟨some catalog⟩ { text := text } position).1 = [] ↔
      text.offsetOf position < mark.start ∨
        (Analysis.run catalog text (some position)).insideComment = true := by
  show (Analysis.run catalog text (some position)).completions catalog position = [] ↔ _
  cases isInside : (Analysis.run catalog text (some position)).insideComment with
  | true => simp [Analysis.completions_of_insideComment isInside]
  | false =>
    have sameOffset := (Text.cut_cutAfterLine text position).offsetOf_eq
    rw [← sameOffset] at isBehind notBehind
    obtain ⟨isKeyword, type, isType, isApplicable⟩ :=
      Analysis.cursor_of_reads trace isMove isBehind notBehind isInside
    rw [sameOffset] at isKeyword
    by_cases atMark : mark.start ≤ text.offsetOf position
    · rw [if_pos atMark] at isKeyword
      have isOffered := Analysis.completions_ne_nil isInside isKeyword isType isApplicable position
      simp [isOffered, atMark]
    · rw [if_neg atMark] at isKeyword
      have notOffered : (Analysis.run catalog text (some position)).completions catalog position =
          [] := Analysis.completions_behind_keyword catalog isKeyword isBehind
      simp [notOffered, Nat.lt_of_not_le atMark]

def alphaWithText : ConceptType :=
  ⟨"A", some "alpha", "", [], [⟨"Of", .text, none⟩]⟩

def alphas : Catalog :=
  ⟨[alphaWithText], by decide +kernel⟩

/-- A concept whose mark stands directly behind its member. -/
def endedAlpha : Text :=
  .ofString "alpha x;\n"

open Parse in
theorem trace_of_endedAlpha :
    Trace alphas (.initial (Stream.ofText endedAlpha).tokens (Stream.ofText endedAlpha).stop)
      [.reads ⟨alphaWithText, ["x"]⟩ ⟨.identifier, "alpha", 0, 5⟩ ⟨.special, ";", 7, 8⟩] := by
  have isTokens : (Stream.ofText endedAlpha).tokens =
      [⟨.identifier, "alpha", 0, 5⟩, ⟨.identifier, "x", 6, 7⟩, ⟨.special, ";", 7, 8⟩] := by
    decide +kernel
  have isStop : (Stream.ofText endedAlpha).stop = 9 := by decide +kernel
  have isRead : (readConcept alphas [] (.ofTokens
        [⟨.identifier, "alpha", 0, 5⟩, ⟨.identifier, "x", 6, 7⟩, ⟨.special, ";", 7, 8⟩] 9)
        ⟨.identifier, "alpha", 0, 5⟩).2 =
      .ok (⟨alphaWithText, ["x"]⟩, ⟨[⟨.identifier, "x", 6, 7⟩, ⟨.identifier, "alpha", 0, 5⟩],
        [⟨.special, ";", 7, 8⟩], 9⟩) := by
    decide +kernel
  rw [isTokens, isStop]
  exact .reads (.ends rfl isRead rfl) rfl rfl (.stops .finished (by simp [Reader.peek?]))

/-- In front of the member nothing is offered. -/
theorem Document.completions_in_front_of_member :
    5 < endedAlpha.offsetOf ⟨0, 6⟩ ∧ endedAlpha.offsetOf ⟨0, 6⟩ ≤ 7 ∧
      (Document.completions ⟨some alphas⟩ { text := endedAlpha } ⟨0, 6⟩).1 = [] := by
  have wholeText : endedAlpha.cutAfterLine (endedAlpha.offsetOf ⟨0, 6⟩) = endedAlpha := by
    decide +kernel
  have trace := trace_of_endedAlpha
  rw [← wholeText] at trace
  have isBehind : 5 < endedAlpha.offsetOf ⟨0, 6⟩ := by decide +kernel
  have isBefore : endedAlpha.offsetOf ⟨0, 6⟩ < 7 := by decide +kernel
  exact ⟨isBehind, Nat.le_of_lt isBefore, (Document.completions_in_members_iff alphas endedAlpha
    ⟨0, 6⟩ trace List.mem_cons_self isBehind (Nat.le_of_lt isBefore)).2 (.inl isBefore)⟩

/-- Behind the member and directly in front of the mark the keyword is offered again. -/
theorem Document.completions_at_mark :
    (∃ moves, Parse.Trace alphas
        (.initial (Stream.ofText (endedAlpha.cutAfterLine (endedAlpha.offsetOf ⟨0, 7⟩))).tokens
          (Stream.ofText (endedAlpha.cutAfterLine (endedAlpha.offsetOf ⟨0, 7⟩))).stop) moves ∧
      .reads ⟨alphaWithText, ["x"]⟩ ⟨.identifier, "alpha", 0, 5⟩ ⟨.special, ";", 7, 8⟩ ∈ moves) ∧
      5 < endedAlpha.offsetOf ⟨0, 7⟩ ∧ endedAlpha.offsetOf ⟨0, 7⟩ ≤ 7 ∧
      (Document.completions ⟨some alphas⟩ { text := endedAlpha } ⟨0, 7⟩).1 = ["alpha"] := by
  have wholeText : endedAlpha.cutAfterLine (endedAlpha.offsetOf ⟨0, 7⟩) = endedAlpha := by
    decide +kernel
  have trace := trace_of_endedAlpha
  rw [← wholeText] at trace
  exact ⟨⟨_, trace, List.mem_cons_self⟩, by decide +kernel⟩

end ConceptScript
