import ConceptScript.Catalog.BuiltIn
import ConceptScript.Proofs.Analysis.SharedOffset
import ConceptScript.Proofs.Text.Clamp
import ConceptScript.Proofs.Token.Idle

/-!
Contract: comments on the line of a position.

A position counts as inside of a comment if one starts on its line, at or before it. Then no keyword
is active. But a comment ends at a carriage return as well as at a line feed, while lines are told
by line feeds only. So code may follow a comment on its line, and the position may lie in that code.

Owns which positions are inside of a comment, and when a token follows a comment on its line.

Does not own lines that do not exist.
-/

set_option autoImplicit false

namespace ConceptScript

/-! ## Positions inside of a comment -/

/-- The number of bytes in front of a place decides what stands behind it. -/
theorem Text.eq_of_byteSize_eq
    {front back otherFront otherBack : List Char}
    (same : front ++ back = otherFront ++ otherBack)
    (sameSize : byteSize front = byteSize otherFront) :
    back = otherBack := by
  obtain ⟨between, isFront, isBack⟩ :=
    exists_append_of_byteSize_le same (Nat.le_of_eq sameSize.symm)
  rw [isFront, byteSize_append] at sameSize
  obtain rfl := eq_nil_of_byteSize (show byteSize between = 0 by omega)
  exact isBack.symm

theorem Text.line_positionOf_byteSize
    {text : Text} {front back : List Char}
    (isText : text.chars = front ++ back) :
    (text.positionOf (byteSize front)).line = front.count '\n' := by
  rw [positionOf, isText, positionAfter_byteSize, line_foldl_after]
  exact Nat.zero_add _

theorem Lexeme.Spelled.noFeed_of_comment
    {value spelling rest : List Char}
    (isComment : Spelled .comment value spelling rest) :
    '\n' ∉ spelling := by
  cases isComment with
  | comment oneLine =>
    intro isFeed
    have inValue : '\n' ∈ value := by simpa using isFeed
    exact Bool.noConfusion (oneLine _ inValue)

/-- A comment does not leave its line. -/
theorem Scan.line_of_comment
    {text : Text} {comment : Token} {offset : Nat}
    (isComment : comment ∈ (ofChars text.chars).comments)
    (startsBefore : comment.start ≤ offset)
    (endsBehind : offset ≤ comment.stop) :
    (text.positionOf offset).line = (text.positionOf comment.start).line := by
  obtain ⟨isToken, isKind⟩ := List.mem_filter.1 isComment
  obtain ⟨before, front, spelling, rest, -, isText, isStart, isStop, isSpelled⟩ :=
    exists_behind_token isToken
  rw [of_decide_eq_true isKind] at isSpelled
  rw [Nat.zero_add] at isStart
  have noFeed := List.count_eq_zero_of_not_mem isSpelled.noFeed_of_comment
  have notAbove := Position.line_le (text.positionOf_mono startsBefore)
  have notBelow := Position.line_le (text.positionOf_mono endsBehind)
  have isEnd : (text.positionOf (Text.byteSize (front ++ spelling))).line =
      (front ++ spelling).count '\n' :=
    Text.line_positionOf_byteSize (by rw [isText, List.append_assoc])
  rw [Text.byteSize_append, ← isStart, ← isStop, List.count_append, noFeed] at isEnd
  rw [isStart, Text.line_positionOf_byteSize isText] at notAbove ⊢
  omega

/-- The cut behind a line does not take the line away. -/
theorem Text.Cut.line_le_lastLine
    {text cut : Text} {position : Position}
    (isCut : Cut text position cut)
    (isLine : position.line ≤ text.lastLine) :
    position.line ≤ cut.lastLine := by
  cases isCut with
  | whole => exact isLine
  | behind _ isFront =>
    rw [lastLine, List.count_append, isFront]
    exact Nat.le_add_right _ _

namespace Analysis

theorem any_line_iff
    {text : Text} {line target : Nat} {last : Option Token}
    (lastBefore : ∀ comment ∈ last, comment.start ≤ target) :
    (last.any fun comment => (text.positionOf comment.start).line == line) = true ↔
      ∃ comment ∈ last,
        comment.start ≤ target ∧ (text.positionOf comment.start).line = line := by
  rw [Option.any_eq_true]
  constructor
  · rintro ⟨comment, isLast, sameLine⟩
    exact ⟨comment, isLast, lastBefore comment isLast, eq_of_beq sameLine⟩
  · rintro ⟨comment, isLast, -, sameLine⟩
    exact ⟨comment, isLast, beq_iff_eq.2 sameLine⟩

/-- Only whether some comment starts on the line, at or before the target, matters. -/
theorem isInsideComment_iff
    {text : Text} {line target : Nat} {last : Option Token} {comments : List Token}
    (ordered : comments.Pairwise fun earlier later => earlier.start < later.start)
    (lastBefore : ∀ comment ∈ last, comment.start ≤ target ∧
      ∀ later ∈ comments, comment.start < later.start)
    (isAbove : (text.positionOf target).line ≤ line)
    (coversLine : ∀ comment ∈ comments, comment.covers target = true →
      (text.positionOf comment.start).line = line) :
    isInsideComment text line target last comments = true ↔
      ∃ comment, (comment ∈ last ∨ comment ∈ comments) ∧
        comment.start ≤ target ∧ (text.positionOf comment.start).line = line := by
  induction comments generalizing last with
  | nil =>
    rw [isInsideComment, any_line_iff fun comment isLast => (lastBefore comment isLast).1]
    simp
  | cons comment later inductionHypothesis =>
    obtain ⟨commentBefore, laterOrdered⟩ := List.pairwise_cons.1 ordered
    obtain ⟨commentCovers, laterCovers⟩ := List.forall_mem_cons.1 coversLine
    rw [isInsideComment]
    by_cases isCovered : comment.covers target = true
    · have startsBefore := ((comment.covers_iff target).1 isCovered).1
      rw [if_pos isCovered]
      exact iff_of_true rfl ⟨comment, .inr List.mem_cons_self, startsBefore,
        commentCovers isCovered⟩
    · rw [if_neg isCovered]
      by_cases isBehind : target < comment.start
      · -- This comment and all later ones start behind the target.
        rw [if_pos isBehind, any_line_iff fun comment isLast => (lastBefore comment isLast).1]
        constructor
        · rintro ⟨other, isLast, startsBefore, sameLine⟩
          exact ⟨other, .inl isLast, startsBefore, sameLine⟩
        · rintro ⟨other, isLast | isLater, startsBefore, sameLine⟩
          · exact ⟨other, isLast, startsBefore, sameLine⟩
          · rcases List.mem_cons.1 isLater with rfl | isLater
            · omega
            · have isOrdered := commentBefore other isLater
              omega
      · have startsBefore : comment.start ≤ target := Nat.le_of_not_lt isBehind
        have nextBefore : ∀ next ∈ some comment, next.start ≤ target ∧
            ∀ other ∈ later, next.start < other.start := by
          rintro next ⟨⟩
          exact ⟨startsBefore, commentBefore⟩
        rw [if_neg isBehind, inductionHypothesis laterOrdered nextBefore laterCovers]
        constructor
        · rintro ⟨other, isNext | isLater, isBefore, sameLine⟩
          · obtain rfl := Option.some.inj isNext
            exact ⟨comment, .inr List.mem_cons_self, isBefore, sameLine⟩
          · exact ⟨other, .inr (List.mem_cons_of_mem comment isLater), isBefore, sameLine⟩
        · rintro ⟨other, isLast | isMember, isBefore, sameLine⟩
          · -- Between the last comment on the line and the target, this one is on the line too.
            have isOrdered := (lastBefore other isLast).2 comment List.mem_cons_self
            have notAbove := Position.line_le (text.positionOf_mono (Nat.le_of_lt isOrdered))
            have notBelow := Position.line_le (text.positionOf_mono startsBefore)
            exact ⟨comment, .inl rfl, startsBefore, by omega⟩
          · rcases List.mem_cons.1 isMember with rfl | isLater
            · exact ⟨other, .inl rfl, isBefore, sameLine⟩
            · exact ⟨other, .inr isLater, isBefore, sameLine⟩

variable {catalog : Catalog} {text : Text} {position : Position}

theorem insideComment_iff
    (isLine : position.line ≤ text.lastLine) :
    (run catalog text (some position)).insideComment = true ↔
      ∃ comment ∈ (run catalog text (some position)).comments,
        comment.start ≤ (run catalog text (some position)).offset ∧
          (text.positionOf comment.start).line = position.line := by
  have isCut := Text.cut_cutAfterLine text position
  let cut := text.cutAfterLine (text.offsetOf position)
  have atLine : (cut.positionOf (cut.offsetOf position)).line = position.line := by
    rw [Text.line_positionOf_offsetOf]
    exact Nat.min_eq_left (isCut.line_le_lastLine isLine)
  have ordered : (Stream.ofText cut).comments.Pairwise fun earlier later =>
      earlier.start < later.start :=
    (Scan.lies_ofChars cut.chars).starts_increase.filter _
  have coversLine : ∀ comment ∈ (Stream.ofText cut).comments,
      comment.covers (cut.offsetOf position) = true →
      (cut.positionOf comment.start).line = position.line := by
    intro comment isComment isCovered
    obtain ⟨startsBefore, endsBehind⟩ := (comment.covers_iff _).1 isCovered
    rw [← atLine, Scan.line_of_comment isComment startsBefore (Nat.le_of_lt endsBehind)]
  have isInside : (run catalog text (some position)).insideComment = true ↔
      ∃ comment, (comment ∈ none ∨ comment ∈ (Stream.ofText cut).comments) ∧
        comment.start ≤ cut.offsetOf position ∧
          (cut.positionOf comment.start).line = position.line :=
    isInsideComment_iff ordered (by simp) (Nat.le_of_eq atLine) coversLine
  have samePosition {comment : Token} (isComment : comment ∈ (Stream.ofText cut).comments) :
      cut.positionOf comment.start = text.positionOf comment.start :=
    isCut.positionOf_of_scanned (List.mem_filter.1 isComment).1 (Nat.le_refl _)
  rw [isInside]
  constructor
  · rintro ⟨comment, isNone | isComment, startsBefore, sameLine⟩
    · cases isNone
    · rw [samePosition isComment] at sameLine
      exact ⟨comment, isComment, startsBefore, sameLine⟩
  · rintro ⟨comment, isComment, startsBefore, sameLine⟩
    rw [← samePosition isComment] at sameLine
    exact ⟨comment, .inr isComment, startsBefore, sameLine⟩

theorem keyword_of_insideComment
    (isInside : (ofText catalog text position).insideComment = true) :
    (ofText catalog text position).cursor.keyword = none := by
  have isComment : isInsideComment text position.line (text.offsetOf position) none
      (Stream.ofText text).comments = true := isInside
  simp only [ofText, isComment, ↓reduceIte]

/-! ## Behind a comment -/

/-- The tokens at or behind the start of a comment are those that are scanned behind its end. -/
theorem tokens_behind_comment_iff
    {chars rest : List Char} {comment : Token} {before : List Token}
    (isRaw : (Scan.ofChars chars).raw =
      before ++ comment :: (Scan.ofCharsFrom comment.stop rest).raw)
    (isComment : comment.isComment = true) (token : Token) :
    token ∈ (Scan.ofChars chars).tokens ∧ comment.start ≤ token.start ↔
      token ∈ (Scan.ofCharsFrom comment.stop rest).tokens := by
  have lies := Scan.lies_ofChars chars
  have notEmpty := fun token isToken => (lies.inside token isToken).2.1
  have ordered := lies.ordered
  rw [isRaw] at notEmpty ordered
  obtain ⟨-, commentOrdered, beforeOrdered⟩ := List.pairwise_append.1 ordered
  have laterOrdered := (List.pairwise_cons.1 commentOrdered).1
  rw [Scan.tokens, Scan.tokens, List.mem_filter, List.mem_filter, isRaw]
  constructor
  · rintro ⟨⟨isToken, isCode⟩, notBefore⟩
    rcases List.mem_append.1 isToken with isBefore | isBehind
    · have isOrdered := beforeOrdered token isBefore comment List.mem_cons_self
      have tokenNotEmpty := notEmpty token isToken
      omega
    · rcases List.mem_cons.1 isBehind with rfl | isLater
      · rw [isComment] at isCode
        cases isCode
      · exact ⟨isLater, isCode⟩
  · rintro ⟨isLater, isCode⟩
    have isOrdered := laterOrdered token isLater
    have commentNotEmpty := notEmpty comment (by simp)
    refine ⟨⟨?_, isCode⟩, by omega⟩
    exact List.mem_append_right before (List.mem_cons_of_mem comment isLater)

/-- Behind a comment on the line of the position stands nothing, the line feed that ends the text,
or a carriage return. -/
theorem rest_of_comment
    {front spelling rest value : List Char}
    (isCut : (text.cutAfterLine (text.offsetOf position)).chars = front ++ (spelling ++ rest))
    (isSpelled : Lexeme.Spelled .comment value spelling rest)
    (sameLine : (text.positionOf (Text.byteSize front)).line = position.line) :
    rest = [] ∨ rest = ['\n'] ∨ ∃ behind, rest = '\r' :: behind := by
  have noFeed := List.count_eq_zero_of_not_mem isSpelled.noFeed_of_comment
  cases rest with
  | nil => exact .inl rfl
  | cons c behind =>
    have isLineEnd : c = '\n' ∨ c = '\r' := by
      cases isSpelled with
      | comment _ ends => simpa [Lexeme.isLineEnd] using ends c rfl
    rcases isLineEnd with rfl | rfl
    · -- Whatever stood behind the line feed would be below the line of the position.
      refine .inr (.inl ?_)
      by_contra goesOn
      have notEmpty : 0 < Text.byteSize behind :=
        Text.byteSize_pos fun nothing => goesOn (by rw [nothing])
      have isLonger : (text.cutAfterLine (text.offsetOf position)).chars =
          front ++ (spelling ++ ['\n']) ++ behind := by
        rw [isCut]
        simp
      have inside : Text.byteSize (front ++ (spelling ++ ['\n'])) <
          (text.cutAfterLine (text.offsetOf position)).length := by
        rw [Text.length, isLonger, Text.byteSize_append _ behind]
        omega
      obtain ⟨more, isText, -⟩ := (Text.cut_cutAfterLine text position).exists_append
      rw [isLonger, List.append_assoc] at isText
      have isBelow := Text.line_positionOf_byteSize isText
      rw [List.append_assoc] at isText
      have isFront := Text.line_positionOf_byteSize isText
      have notBelow := Text.line_positionOf_le_of_inside inside
      rw [List.count_append, List.count_append, noFeed, List.count_singleton_self] at isBelow
      omega
    · exact .inr (.inr ⟨behind, rfl⟩)

/-- Behind a comment on the line of the position nothing is scanned, unless a carriage return and
something that is not idle follow. -/
theorem noTokens_behind_comment_iff
    {front spelling rest value : List Char}
    (isCut : (text.cutAfterLine (text.offsetOf position)).chars = front ++ (spelling ++ rest))
    (isSpelled : Lexeme.Spelled .comment value spelling rest)
    (sameLine : (text.positionOf (Text.byteSize front)).line = position.line) (stop : Nat) :
    (Scan.ofCharsFrom stop rest).tokens = [] ↔
      ∀ behind, rest = '\r' :: behind → Scan.Idle behind := by
  rcases rest_of_comment isCut isSpelled sameLine with rfl | rfl | ⟨behind, rfl⟩
  · exact iff_of_true (Scan.tokens_of_idle (.blanks (List.forall_mem_nil _)) stop) (by simp)
  · have feedIsBlank : ∀ c ∈ ['\n'], Text.isBlank c = true := List.forall_mem_singleton.2 rfl
    exact iff_of_true (Scan.tokens_of_idle (.blanks feedIsBlank) stop) (by simp)
  · have returnIsBlank : ∀ c ∈ ['\r'], Text.isBlank c = true := List.forall_mem_singleton.2 rfl
    have isScan := Scan.ofCharsFrom_of_blanks returnIsBlank stop behind
    rw [List.singleton_append] at isScan
    rw [isScan, ← Scan.idle_iff]
    constructor
    · rintro idle _ ⟨⟩
      exact idle
    · intro allIdle
      exact allIdle behind rfl

/-- What is scanned at or behind the start of a comment on the line of the position starts on that
line too. -/
theorem line_of_behind_comment
    {comment token : Token}
    (isToken :
      token ∈ (Scan.ofChars (text.cutAfterLine (text.offsetOf position)).chars).tokens)
    (notBefore : comment.start ≤ token.start)
    (sameLine : (text.positionOf comment.start).line = position.line) :
    (text.positionOf token.start).line = position.line := by
  obtain ⟨notEmpty, isInside⟩ := token_before_end (List.mem_filter.1 isToken).1
  have notAbove := Position.line_le (text.positionOf_mono notBefore)
  have notBelow := Text.line_positionOf_le_of_inside (Nat.lt_of_lt_of_le notEmpty isInside)
  exact Nat.le_antisymm notBelow (sameLine ▸ notAbove)

/-- No token follows a comment on its line, unless the comment ends at a carriage return and what
follows that is not idle. -/
theorem noCode_behind_comment_iff
    {comment : Token}
    (isComment : comment ∈ (run catalog text (some position)).comments)
    (sameLine : (text.positionOf comment.start).line = position.line) :
    (∀ token ∈ (run catalog text (some position)).tokens, comment.start ≤ token.start →
        (text.positionOf token.start).line ≠ position.line) ↔
      ∀ front behind, (run catalog text (some position)).text.chars = front ++ '\r' :: behind →
        Text.byteSize front = comment.stop → Scan.Idle behind := by
  obtain ⟨isToken, isKind⟩ := List.mem_filter.1 isComment
  obtain ⟨before, front, spelling, rest, isRaw, isCut, isStart, isStop, isSpelled⟩ :=
    Scan.exists_behind_token isToken
  rw [Nat.zero_add] at isStart
  rw [of_decide_eq_true isKind] at isSpelled
  have isBehind := tokens_behind_comment_iff isRaw isKind
  have noCode : (∀ token ∈ (run catalog text (some position)).tokens,
      comment.start ≤ token.start → (text.positionOf token.start).line ≠ position.line) ↔
      (Scan.ofCharsFrom comment.stop rest).tokens = [] := by
    rw [List.eq_nil_iff_forall_not_mem]
    constructor
    · intro noneOnLine token isLater
      obtain ⟨isCode, notBefore⟩ := (isBehind token).2 isLater
      exact noneOnLine token isCode notBefore
        (line_of_behind_comment isCode notBefore sameLine)
    · intro noneLater token isCode notBefore _
      exact noneLater token ((isBehind token).1 ⟨isCode, notBefore⟩)
  rw [noCode, noTokens_behind_comment_iff isCut isSpelled (isStart ▸ sameLine)]
  -- The rest of the text is known by the offset it starts at.
  have atStop : Text.byteSize (front ++ spelling) = comment.stop := by
    rw [Text.byteSize_append]
    omega
  rw [← List.append_assoc] at isCut
  constructor
  · intro idle otherFront behind isOther sameSize
    exact idle behind (Text.eq_of_byteSize_eq (isCut.symm.trans isOther)
      (atStop.trans sameSize.symm))
  · intro idle behind isRest
    exact idle (front ++ spelling) behind (isRest ▸ isCut) atStop

end Analysis

/-- **A comment takes the rest of its line, up to a carriage return.** On a line that exists, a
position counts as inside of a comment exactly if one starts on its line, at or before it. Then no
keyword is active. Behind such a comment no token starts on the line exactly if the comment ends at
no carriage return or only idle characters follow that. -/
theorem Analysis.insideComment_on_line
    (catalog : Catalog) (text : Text) (position : Position)
    (isLine : position.line ≤ text.lastLine) :
    let analysis := Analysis.run catalog text (some position)
    (analysis.insideComment = true ↔
        ∃ comment ∈ analysis.comments, comment.start ≤ text.offsetOf position ∧
          (text.positionOf comment.start).line = position.line) ∧
      (analysis.insideComment = true → analysis.cursor.keyword = none) ∧
      ∀ comment ∈ analysis.comments, comment.start ≤ text.offsetOf position →
        (text.positionOf comment.start).line = position.line →
        ((∀ token ∈ analysis.tokens, comment.start ≤ token.start →
            (text.positionOf token.start).line ≠ position.line) ↔
          ∀ front behind, analysis.text.chars = front ++ '\r' :: behind →
            Text.byteSize front = comment.stop → Scan.Idle behind) := by
  intro analysis
  refine ⟨?_, keyword_of_insideComment, ?_⟩
  · rw [← (Text.cut_cutAfterLine text position).offsetOf_eq]
    exact insideComment_iff isLine
  · intro comment isComment _ sameLine
    exact noCode_behind_comment_iff isComment sameLine

/-- A line that ends with a comment, a carriage return and a line feed. -/
def commentedLine : Text :=
  .ofString "Entity Book; // c\r\n"

/-- In a comment that a carriage return and a line feed end, no keyword is active, and no token
follows. -/
theorem Analysis.insideComment_on_commentedLine :
    0 ≤ commentedLine.lastLine ∧
      (Analysis.run .builtIn commentedLine (some ⟨0, 15⟩)).insideComment = true ∧
      (Analysis.run .builtIn commentedLine (some ⟨0, 15⟩)).cursor.keyword = none ∧
      ∀ token ∈ (Analysis.run .builtIn commentedLine (some ⟨0, 15⟩)).tokens,
        13 ≤ token.start → (commentedLine.positionOf token.start).line ≠ 0 := by
  have isComment : ⟨.comment, " c", 13, 17⟩ ∈
      (Analysis.run .builtIn commentedLine (some ⟨0, 15⟩)).comments := by
    decide +kernel
  have startsBefore : 13 ≤ commentedLine.offsetOf ⟨0, 15⟩ := by decide +kernel
  have sameLine : (commentedLine.positionOf 13).line = 0 := by decide +kernel
  have isSplit : (Analysis.run .builtIn commentedLine (some ⟨0, 15⟩)).text.chars =
      "Entity Book; // c".toList ++ ['\r', '\n'] := by
    decide +kernel
  obtain ⟨insideIff, noKeyword, noCodeIff⟩ :=
    Analysis.insideComment_on_line .builtIn commentedLine ⟨0, 15⟩ (Nat.zero_le _)
  have isInside := insideIff.2 ⟨_, isComment, startsBefore, sameLine⟩
  refine ⟨Nat.zero_le _, isInside, noKeyword isInside, ?_⟩
  refine (noCodeIff _ isComment startsBefore sameLine).2 fun front behind isOther sameSize => ?_
  obtain ⟨-, rfl⟩ := List.cons.inj (Text.eq_of_byteSize_eq (isSplit.symm.trans isOther)
    (sameSize.symm ▸ by decide +kernel))
  exact .blanks (List.forall_mem_singleton.2 rfl)

/-- A line with code behind a comment that a carriage return alone ends. -/
def codeBehindReturn : Text :=
  .ofString "// c\rEntity Book;\n"

/-- A position in that code counts as inside of the comment. -/
theorem Analysis.insideComment_in_codeBehindReturn :
    (Analysis.run .builtIn codeBehindReturn (some ⟨0, 8⟩)).insideComment = true ∧
      ∃ comment ∈ (Analysis.run .builtIn codeBehindReturn (some ⟨0, 8⟩)).comments,
        comment.start ≤ codeBehindReturn.offsetOf ⟨0, 8⟩ ∧
          (codeBehindReturn.positionOf comment.start).line = 0 ∧
          ∃ token ∈ (Analysis.run .builtIn codeBehindReturn (some ⟨0, 8⟩)).tokens,
            comment.start ≤ token.start ∧
              (codeBehindReturn.positionOf token.start).line = 0 := by
  decide +kernel

end ConceptScript
