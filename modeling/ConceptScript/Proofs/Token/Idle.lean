import ConceptScript.Proofs.Token.Tiling
import ConceptScript.Proofs.Token.Writing

/-!
Contract: characters in which a scan finds no token, and what a scan finds behind one of its
tokens.

A scan goes on behind a token as if the text began there. Nothing is found for the parser where only
blanks and comments stand, up to the end or up to a character at which no lexeme can be read.

Owns idle characters, and the part of a scan that lies behind a token.

Does not own lines.
-/

set_option autoImplicit false

namespace ConceptScript.Scan

/-- Blanks and comments, up to the end or to a character at which no lexeme can be read. -/
inductive Idle : List Char → Prop where
  | blanks {blanks : List Char}
      (allBlank : ∀ c ∈ blanks, Text.isBlank c = true) :
      Idle blanks
  | comment {blanks value spelling rest : List Char}
      (allBlank : ∀ c ∈ blanks, Text.isBlank c = true)
      (isComment : Lexeme.Spelled .comment value spelling rest)
      (goesOn : Idle rest) :
      Idle (blanks ++ (spelling ++ rest))
  | broken {blanks rest : List Char} {c : Char}
      (allBlank : ∀ c ∈ blanks, Text.isBlank c = true)
      (notBlank : Text.isBlank c = false)
      (unread : ∀ kind value spelling behind, Lexeme.Spelled kind value spelling behind →
        spelling ++ behind ≠ c :: rest) :
      Idle (blanks ++ c :: rest)

theorem ofCharsFrom_of_blanks
    {blanks : List Char}
    (allBlank : ∀ c ∈ blanks, Text.isBlank c = true) (offset : Nat) (chars : List Char) :
    ofCharsFrom offset (blanks ++ chars) = ofCharsFrom (offset + Text.byteSize blanks) chars :=
  ofCharsFrom_of_blank offset (List.dropWhile_eq_nil_iff.2 allBlank) chars

/-- At a character that is not blank and that no lexeme begins with, a scan ends. -/
theorem raw_of_unread
    {c : Char} {rest : List Char}
    (notBlank : Text.isBlank c = false)
    (unread : ∀ kind value spelling behind, Lexeme.Spelled kind value spelling behind →
      spelling ++ behind ≠ c :: rest) (offset : Nat) :
    (ofCharsFrom offset (c :: rest)).raw = [] := by
  have isFront : (c :: rest).dropWhile Text.isBlank = c :: rest :=
    List.dropWhile_cons_of_neg (by simp [notBlank])
  cases isRead : Lexeme.read (c :: rest) with
  | none => cases (Lexeme.read_eq_none_iff _).1 isRead
  | some outcome =>
    cases outcome with
    | error cause => rw [ofCharsFrom_of_fault offset (isFront.symm ▸ isRead)]
    | ok found =>
      have spelled := (Lexeme.reads_of_read isRead).spelled
      exact absurd (Lexeme.read_spelling isRead).1 (unread _ _ _ _ spelled)

theorem tokens_of_idle
    {chars : List Char}
    (idle : Idle chars) (offset : Nat) :
    (ofCharsFrom offset chars).tokens = [] := by
  induction idle generalizing offset with
  | @blanks blanks allBlank =>
    have isScan := ofCharsFrom_of_blanks allBlank offset []
    rw [List.append_nil, ofCharsFrom_nil] at isScan
    rw [isScan]
    rfl
  | comment allBlank isComment _ inductionHypothesis =>
    rw [ofCharsFrom_of_blanks allBlank, ofCharsFrom_of_spelled _ isComment]
    exact inductionHypothesis _
  | broken allBlank notBlank unread =>
    rw [ofCharsFrom_of_blanks allBlank, tokens, raw_of_unread notBlank unread, List.filter_nil]

theorem idle_of_tokens
    {offset : Nat} {chars : List Char}
    (noTokens : (ofCharsFrom offset chars).tokens = []) :
    Idle chars := by
  fun_induction ofCharsFrom offset chars with
  | case1 offset chars nothing =>
    have noRest := (Lexeme.read_eq_none_iff _).1 nothing
    exact .blanks (List.dropWhile_eq_nil_iff.1 noRest)
  | case2 offset chars start cause failed =>
    have whole := List.takeWhile_append_dropWhile (p := Text.isBlank) (l := chars)
    cases isRest : chars.dropWhile Text.isBlank with
    | nil =>
      rw [isRest] at failed
      cases failed
    | cons c rest =>
      have notBlank : Text.isBlank c = false := by
        apply Lexeme.head?_dropWhile
        rw [isRest]
        exact rfl
      rw [isRest] at failed whole
      rw [← whole]
      exact .broken (takeWhile_isBlank chars) notBlank
        fun _ _ _ _ => Lexeme.not_spelled_of_read failed
  | case3 offset chars start lexeme after found stop later inductionHypothesis =>
    have whole := List.takeWhile_append_dropWhile (p := Text.isBlank) (l := chars)
    have isSpelled := (Lexeme.reads_of_read found).spelled
    have allComments := List.forall_mem_cons.1 (List.filter_eq_nil_iff.1 noTokens)
    have isComment : lexeme.kind = .comment := by simpa [Token.isComment] using allComments.1
    have laterTokens : later.tokens = [] := List.filter_eq_nil_iff.2 allComments.2
    rw [isComment] at isSpelled
    rw [← whole, ← (Lexeme.read_spelling found).1]
    exact .comment (takeWhile_isBlank chars) isSpelled (inductionHypothesis laterTokens)

/-- Idle characters are those in which a scan finds no token, wherever they stand. -/
theorem idle_iff (offset : Nat) (chars : List Char) :
    Idle chars ↔ (ofCharsFrom offset chars).tokens = [] :=
  ⟨fun idle => tokens_of_idle idle offset, idle_of_tokens⟩

/-! ## Behind a token -/

/-- Behind a token a scan goes on as if the text began there. -/
theorem exists_behind_token
    {offset : Nat} {chars : List Char} {token : Token}
    (isToken : token ∈ (ofCharsFrom offset chars).raw) :
    ∃ before front spelling rest,
      (ofCharsFrom offset chars).raw = before ++ token :: (ofCharsFrom token.stop rest).raw ∧
        chars = front ++ (spelling ++ rest) ∧
        token.start = offset + Text.byteSize front ∧
        token.stop = token.start + Text.byteSize spelling ∧
        Lexeme.Spelled token.kind token.value.toList spelling rest := by
  fun_induction ofCharsFrom offset chars with
  | case1 => cases isToken
  | case2 => cases isToken
  | case3 offset chars start lexeme after found stop later inductionHypothesis =>
    have whole := List.takeWhile_append_dropWhile (p := Text.isBlank) (l := chars)
    rw [← (Lexeme.read_spelling found).1] at whole
    rcases List.mem_cons.1 isToken with rfl | isLater
    · refine ⟨[], _, lexeme.spelling, after, rfl, whole.symm, rfl, rfl, ?_⟩
      rw [String.toList_ofList]
      exact (Lexeme.reads_of_read found).spelled
    · obtain ⟨before, front, spelling, rest, isRaw, isAfter, isStart, isStop, isSpelled⟩ :=
        inductionHypothesis isLater
      refine ⟨_ :: before, chars.takeWhile Text.isBlank ++ (lexeme.spelling ++ front), spelling,
        rest, congrArg (List.cons _) isRaw, ?_, ?_, isStop, isSpelled⟩
      · rw [isAfter] at whole
        rw [List.append_assoc, List.append_assoc]
        exact whole.symm
      · rw [Text.byteSize_append, Text.byteSize_append]
        omega

end ConceptScript.Scan
