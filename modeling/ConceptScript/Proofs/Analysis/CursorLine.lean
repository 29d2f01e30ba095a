import ConceptScript.Proofs.Analysis.Construct

/-!
Contract: an analysis at a position compared with one of the whole text.

The analysis at a position sees the text up to the end of the line. Where that part is scanned
without fault, its tokens and comments are the first ones of the whole text, and all others start
behind the position.

Owns the tokens that the cut takes away, and that neither the construct at the position nor the
comment it is in depends on them.

Does not own the problems that the two analyses report.
-/

set_option autoImplicit false

namespace ConceptScript

/-- The token starts behind an offset, or it is a literal that ends behind it. -/
def Token.IsBehind (offset : Nat) (token : Token) : Prop :=
  offset < token.start ∨ token.kind = .stringLiteral ∧ offset < token.stop

namespace Text.Cut

variable {text cut : Text} {position : Position}

/-- The tokens behind the line of a position all lie behind the position and the cut text. -/
theorem exists_raw_append
    (isCut : Cut text position cut)
    (noFault : (Scan.ofChars cut.chars).fault = none) :
    ∃ later, (Scan.ofChars text.chars).raw = (Scan.ofChars cut.chars).raw ++ later ∧
      ∀ token ∈ later, text.offsetOf position < token.start ∧ cut.length ≤ token.start ∧
        token.start < token.stop := by
  obtain ⟨rest, isText, whole | ⟨endsInFeed, isBefore⟩⟩ := isCut.exists_append
  · exact ⟨[], by simp [isText, whole], by simp⟩
  · have isScan := Scan.ofCharsFrom_append endsInFeed noFault rest
    have lies := Scan.lies_ofCharsFrom (0 + byteSize cut.chars) rest
    refine ⟨_, by rw [isText, Scan.ofChars, isScan]; rfl, ?_⟩
    intro token member
    obtain ⟨isBehind, notEmpty, -⟩ := lies.inside token member
    rw [Nat.zero_add] at isBehind
    exact ⟨Nat.lt_of_lt_of_le isBefore isBehind, isBehind, notEmpty⟩

/-- Where the cut text is faulty, a literal that it breaks off may be a token of the whole text. -/
theorem exists_raw_behind (isCut : Cut text position cut) :
    ∃ later, (Scan.ofChars text.chars).raw = (Scan.ofChars cut.chars).raw ++ later ∧
      ∀ token ∈ later, token.IsBehind (text.offsetOf position) := by
  cases isFault : (Scan.ofChars cut.chars).fault with
  | none =>
    obtain ⟨later, isRaw, isLater⟩ := isCut.exists_raw_append isFault
    exact ⟨later, isRaw, fun token isToken => .inl (isLater token isToken).1⟩
  | some fault =>
    obtain ⟨rest, isText, rfl | ⟨endsInFeed, isBefore⟩⟩ := isCut.exists_append
    · exact ⟨[], by simp [isText], by simp⟩
    · rcases Scan.ofCharsFrom_append_of_fault endsInFeed isFault rest with
        same | ⟨-, literal, later, -, isRaw, isLiteral, -, isStop⟩
      · exact ⟨[], by rw [isText, Scan.ofChars, same, List.append_nil]; rfl, by simp⟩
      · have wholeRaw : (Scan.ofChars text.chars).raw =
            (Scan.ofChars cut.chars).raw ++ literal :: later := by
          rw [isText]
          exact isRaw
        rw [Nat.zero_add] at isStop
        have literalBehind : text.offsetOf position < literal.stop := Nat.lt_trans isBefore isStop
        have ordered := (Scan.lies_ofChars text.chars).ordered
        rw [wholeRaw] at ordered
        have laterOrdered := (List.pairwise_cons.1 (List.pairwise_append.1 ordered).2.1).1
        refine ⟨literal :: later, wholeRaw, ?_⟩
        intro token isToken
        rcases List.mem_cons.1 isToken with rfl | isLater
        · exact .inr ⟨isLiteral, literalBehind⟩
        · exact .inl (Nat.lt_of_lt_of_le literalBehind (laterOrdered token isLater))

theorem positionOf_eq
    (isCut : Cut text position cut) {offset : Nat}
    (inside : offset < cut.length) :
    text.positionOf offset = cut.positionOf offset := by
  obtain ⟨rest, isText, _⟩ := isCut.exists_append
  rw [positionOf, isText]
  exact positionAfter_append .zero inside rest

/-- What is scanned in the cut text starts in the same place of the whole text. -/
theorem positionOf_of_scanned
    (isCut : Cut text position cut) {token : Token} {offset : Nat}
    (isToken : token ∈ (Scan.ofChars cut.chars).raw)
    (notBehind : offset ≤ token.start) :
    cut.positionOf offset = text.positionOf offset := by
  obtain ⟨-, notEmpty, isInside⟩ := (Scan.lies_ofChars cut.chars).inside token isToken
  have inside : offset < cut.length :=
    Nat.lt_of_le_of_lt notBehind (Nat.lt_of_lt_of_le notEmpty isInside)
  exact (isCut.positionOf_eq inside).symm

end Text.Cut

namespace Analysis

/-- Comments behind the target do not matter, and of the others only where they start. -/
theorem isInsideComment_append
    {text cut : Text} {line target : Nat} {last : Option Token} {comments later : List Token}
    (sameLast : (last.any fun comment => (text.positionOf comment.start).line == line) =
      last.any fun comment => (cut.positionOf comment.start).line == line)
    (samePosition : ∀ comment ∈ comments,
      text.positionOf comment.start = cut.positionOf comment.start)
    (isLater : ∀ comment ∈ later, target < comment.start) :
    isInsideComment text line target last (comments ++ later) =
      isInsideComment cut line target last comments := by
  induction comments generalizing last with
  | nil =>
    cases later with
    | nil => exact sameLast
    | cons comment later =>
      have isBehind := isLater comment List.mem_cons_self
      have notCovered : comment.covers target = false := by
        simp only [Token.covers, Bool.and_eq_false_iff, decide_eq_false_iff_not]
        omega
      simp [isInsideComment, notCovered, isBehind, sameLast]
  | cons comment comments inductionHypothesis =>
    have commentPosition := samePosition comment List.mem_cons_self
    have sameComment :
        ((some comment).any fun comment => (text.positionOf comment.start).line == line) =
          (some comment).any fun comment => (cut.positionOf comment.start).line == line := by
      simp [commentPosition]
    have goneOn := inductionHypothesis sameComment
      fun other member => samePosition other (List.mem_cons_of_mem comment member)
    rw [List.cons_append, isInsideComment, isInsideComment, sameLast, goneOn]

theorem insideComment_eq
    {text cut : Text} {position : Position}
    (isCut : text.Cut position cut)
    (noFault : (Scan.ofChars cut.chars).fault = none) :
    isInsideComment cut position.line (cut.offsetOf position) none
        (Stream.ofText cut).comments =
      isInsideComment text position.line (text.offsetOf position) none
        (Stream.ofText text).comments := by
  obtain ⟨later, isRaw, isLater⟩ := isCut.exists_raw_append noFault
  have isComments : (Stream.ofText text).comments =
      (Stream.ofText cut).comments ++ later.filter Token.isComment := by
    simp only [Stream.ofText, Scan.comments, isRaw, List.filter_append]
  rw [isComments, isCut.offsetOf_eq]
  symm
  refine isInsideComment_append rfl ?_ ?_
  · intro comment member
    obtain ⟨-, notEmpty, isInside⟩ :=
      (Scan.lies_ofChars cut.chars).inside comment (List.mem_filter.1 member).1
    apply isCut.positionOf_eq
    simp only [Text.length]
    omega
  · intro comment member
    exact (isLater comment (List.mem_filter.1 member).1).1

theorem construct_eq
    (catalog : Catalog) {text cut : Text} {position : Position}
    (isCut : text.Cut position cut)
    (noFault : (Scan.ofChars cut.chars).fault = none) :
    Construct.after (text.offsetOf position)
        (catalog.parse (Stream.ofText cut).tokens (Stream.ofText cut).stop).events {} =
      Construct.after (text.offsetOf position)
        (catalog.parse (Stream.ofText text).tokens (Stream.ofText text).stop).events {} := by
  obtain ⟨later, isRaw, isLater⟩ := isCut.exists_raw_append noFault
  have isTokens : (Stream.ofText text).tokens =
      (Stream.ofText cut).tokens ++ later.filter fun token => !token.isComment := by
    simp only [Stream.ofText, Scan.tokens, isRaw, List.filter_append]
  rw [isTokens]
  symm
  apply Construct.after_parse_append
  · exact ((Scan.lies_ofChars cut.chars).starts_increase).filter _
  · intro token member
    obtain ⟨isBehind, -, notEmpty⟩ := isLater token (List.mem_filter.1 member).1
    exact ⟨isBehind, by omega⟩

/-- An analysis at a position sees the construct that is there in the whole text. -/
theorem construct_run_eq_ofText
    (catalog : Catalog) (text : Text) (position : Position)
    (noFault : (Stream.ofText (text.cutAfterLine (text.offsetOf position))).fault = none) :
    (run catalog text (some position)).offset = (ofText catalog text position).offset ∧
      (run catalog text (some position)).cursor.keyword =
        (ofText catalog text position).cursor.keyword ∧
      (run catalog text (some position)).cursor.context =
        (ofText catalog text position).cursor.context ∧
      (run catalog text (some position)).insideComment =
        (ofText catalog text position).insideComment := by
  have isCut := Text.cut_cutAfterLine text position
  rw [run]
  generalize text.cutAfterLine (text.offsetOf position) = cut at isCut noFault
  have sameComment := insideComment_eq isCut noFault
  have sameConstruct : (Cursor.ofEvents (.ofTokens (Stream.ofText cut).tokens
        (cut.offsetOf position)) (catalog.parse (Stream.ofText cut).tokens
        (Stream.ofText cut).stop).events).construct =
      (Cursor.ofEvents (.ofTokens (Stream.ofText text).tokens
        (text.offsetOf position)) (catalog.parse (Stream.ofText text).tokens
        (Stream.ofText text).stop).events).construct := by
    rw [Construct.construct_ofEvents, Construct.construct_ofEvents, isCut.offsetOf_eq]
    exact construct_eq catalog isCut noFault
  obtain ⟨sameKeyword, sameContext⟩ := Construct.mk.inj sameConstruct
  refine ⟨isCut.offsetOf_eq, ?_, ?_, sameComment⟩
  · simp only [ofText, sameComment]
    split
    · rfl
    · exact sameKeyword
  · simp only [ofText, sameComment]
    split
    · exact sameContext
    · exact sameContext

/-- A single type, whose concepts stand inside of each other. -/
def nestedParts : Catalog :=
  ⟨[⟨"Part", some "part", "", ["Part"], [⟨"Of", .reference, none⟩]⟩], by decide +kernel⟩

/-- A reference that goes on in the next line, in a block that is never closed, in front of a
literal that is not closed either. -/
def brokenParts : Text :=
  .ofString "part a \x7b\npart b // c\n.d; 'e"

theorem construct_run_in_reference :
    (Stream.ofText (brokenParts.cutAfterLine (brokenParts.offsetOf ⟨1, 5⟩))).fault = none ∧
      (ofText nestedParts brokenParts ⟨1, 5⟩).cursor.keyword =
        some ⟨.identifier, "part", 9, 13⟩ ∧
      (run nestedParts brokenParts (some ⟨1, 5⟩)).cursor.keyword =
        some ⟨.identifier, "part", 9, 13⟩ := by
  have noFault : (Stream.ofText
      (brokenParts.cutAfterLine (brokenParts.offsetOf ⟨1, 5⟩))).fault = none := by
    decide +kernel
  have isKeyword : (ofText nestedParts brokenParts ⟨1, 5⟩).cursor.keyword =
      some ⟨.identifier, "part", 9, 13⟩ := by
    decide +kernel
  refine ⟨noFault, isKeyword, ?_⟩
  rw [(construct_run_eq_ofText nestedParts brokenParts ⟨1, 5⟩ noFault).2.1, isKeyword]

end Analysis

end ConceptScript
