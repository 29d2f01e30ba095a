import ConceptScript.Proofs.Token.Spelling
import Mathlib.Data.List.TakeWhile

/-!
Contract: scanning undoes writing.

A script is written piece by piece. A piece is a lexeme of any kind, with any value that this kind
can have, and the blanks behind it. Blanks are needed only where two lexemes would run into each
other: between two names, between two literals in the same quotes, and in the form of a line end
behind a comment.

Owns what can be written, when pieces are kept apart, and that a scan of what is written finds these
pieces and nothing else.

Does not own the offsets of tokens.
-/

set_option autoImplicit false

namespace ConceptScript

/-! ## Pieces -/

/-- A lexeme to be written. A literal can have any value, in quotes of either form. -/
inductive Draft where
  | name (value : String)
      (notEmpty : value.toList ≠ [])
      (allName : ∀ c ∈ value.toList, Lexeme.isNameChar c = true)
  | literal (quote : Char) (value : String)
      (isOpened : Lexeme.isQuote quote = true)
  | special (mark : Char)
      (isSpecial : Lexeme.isMark mark = true)
  | comment (value : String)
      (oneLine : ∀ c ∈ value.toList, Lexeme.isLineEnd c = false)

namespace Draft

def kind : Draft → Token.Kind
  | name .. => .identifier
  | literal .. => .stringLiteral
  | special .. => .special
  | comment .. => .comment

def value : Draft → String
  | name value _ _ => value
  | literal _ value _ => value
  | special mark _ => String.ofList [mark]
  | comment value _ => value

def spelling : Draft → List Char
  | name value _ _ => value.toList
  | literal quote value _ => quote :: Lexeme.doubled quote value.toList ++ [quote]
  | special mark _ => [mark]
  | comment value _ => '/' :: '/' :: value.toList

/-- What has to be between a lexeme and the next one, if there is one, so that they are not taken
for a single lexeme. -/
def Parts : (draft : Draft) → (blanks : List Char) → (next : Option Draft) → Prop
  | name .., blanks, some (name ..) => blanks ≠ []
  | literal quote _ _, blanks, some (literal other _ _) => other = quote → blanks ≠ []
  | comment .., blanks, none => ∀ c ∈ blanks.head?, Lexeme.isLineEnd c = true
  | comment .., blanks, some _ => ∃ c ∈ blanks.head?, Lexeme.isLineEnd c = true
  | _, _, _ => True

end Draft

/-- A lexeme to be written, and the blanks behind it. -/
structure Piece where
  draft : Draft
  blanks : List Char
  allBlank : ∀ c ∈ blanks, Text.isBlank c = true

namespace Piece

def written (pieces : List Piece) : List Char :=
  pieces.flatMap fun piece => piece.draft.spelling ++ piece.blanks

/-- The lexeme that comes first. -/
def first? (pieces : List Piece) : Option Draft :=
  pieces.head?.map draft

/-- The blanks behind each piece keep it apart from the next one. -/
def Apart : List Piece → Prop
  | [] => True
  | piece :: later => piece.draft.Parts piece.blanks (first? later) ∧ Apart later

@[simp]
theorem written_nil : written [] = [] :=
  rfl

@[simp]
theorem written_cons (piece : Piece) (later : List Piece) :
    written (piece :: later) = piece.draft.spelling ++ (piece.blanks ++ written later) := by
  simp [written]

end Piece

/-! ## What stands behind a lexeme -/

namespace Draft

theorem spelling_ne_nil (draft : Draft) : draft.spelling ≠ [] := by
  cases draft with
  | name value notEmpty => exact notEmpty
  | literal => exact List.cons_ne_nil _ _
  | special => exact List.cons_ne_nil _ _
  | comment => exact List.cons_ne_nil _ _

/-- Only a name starts with a character of names. -/
theorem not_isNameChar_of_first
    {draft : Draft} {c : Char}
    (isFirst : c ∈ draft.spelling.head?)
    (notName : draft.kind ≠ .identifier) :
    Lexeme.isNameChar c = false := by
  cases draft with
  | name => exact absurd rfl notName
  | literal quote value isOpened =>
    obtain rfl : quote = c := by simpa [spelling] using isFirst
    exact Lexeme.not_isNameChar_of_isQuote isOpened
  | special mark isSpecial =>
    obtain rfl : mark = c := by simpa [spelling] using isFirst
    exact Lexeme.not_isNameChar_of_isMark isSpecial
  | comment =>
    obtain rfl : '/' = c := by simpa [spelling] using isFirst
    decide

/-- Only a literal starts with a quote, and with its own. -/
theorem exists_literal_of_first
    {draft : Draft} {c : Char}
    (isFirst : c ∈ draft.spelling.head?)
    (isOpened : Lexeme.isQuote c = true) :
    ∃ value, draft = literal c value isOpened := by
  cases draft with
  | name value notEmpty allName =>
    have isName := allName c (List.mem_of_mem_head? isFirst)
    rw [Lexeme.not_isNameChar_of_isQuote isOpened] at isName
    cases isName
  | literal quote value =>
    obtain rfl : quote = c := by simpa [spelling] using isFirst
    exact ⟨value, rfl⟩
  | special mark isSpecial =>
    obtain rfl : mark = c := by simpa [spelling] using isFirst
    rw [Lexeme.not_isQuote_of_isMark isSpecial] at isOpened
    cases isOpened
  | comment =>
    obtain rfl : '/' = c := by simpa [spelling] using isFirst
    cases isOpened

end Draft

namespace Piece

/-- Behind a lexeme stands a blank or, where there is none, the next lexeme. -/
theorem first_behind
    {piece : Piece} {later : List Piece} {c : Char}
    (isFirst : c ∈ (piece.blanks ++ written later).head?) :
    c ∈ piece.blanks.head? ∧ Text.isBlank c = true ∨
      piece.blanks = [] ∧ ∃ next ∈ first? later, c ∈ next.spelling.head? := by
  cases isBlanks : piece.blanks with
  | cons blank blanks =>
    left
    rw [isBlanks] at isFirst
    obtain rfl : blank = c := by simpa using isFirst
    exact ⟨rfl, piece.allBlank blank (by simp [isBlanks])⟩
  | nil =>
    refine .inr ⟨rfl, ?_⟩
    rw [isBlanks, List.nil_append] at isFirst
    cases later with
    | nil => cases isFirst
    | cons next later =>
      refine ⟨next.draft, rfl, ?_⟩
      rwa [written_cons, List.head?_append, Option.mem_def,
        Option.or_of_isSome (List.isSome_head?.2 next.draft.spelling_ne_nil)] at isFirst

/-- Where it is kept apart, a lexeme is spelled in front of what is written behind it. -/
theorem spelled
    (piece : Piece) {later : List Piece}
    (parts : piece.draft.Parts piece.blanks (first? later)) :
    Lexeme.Spelled piece.draft.kind piece.draft.value.toList piece.draft.spelling
      (piece.blanks ++ written later) := by
  cases isDraft : piece.draft with
  | name value notEmpty allName =>
    refine .name notEmpty allName ?_
    intro c isFirst
    rcases first_behind isFirst with ⟨-, isBlank⟩ | ⟨noBlanks, next, isNext, startsWith⟩
    · apply Bool.eq_false_iff.2
      intro isName
      rw [Lexeme.not_isBlank_of_isNameChar isName] at isBlank
      cases isBlank
    · apply Draft.not_isNameChar_of_first startsWith
      intro isName
      rw [isDraft, Option.mem_def.1 isNext] at parts
      cases next with
      | name => exact parts noBlanks
      | literal => cases isName
      | special => cases isName
      | comment => cases isName
  | literal quote value isOpened =>
    refine .literal isOpened ?_
    intro isFirst
    rcases first_behind isFirst with ⟨-, isBlank⟩ | ⟨noBlanks, next, isNext, startsWith⟩
    · rcases Lexeme.isQuote_cases isOpened with rfl | rfl <;> exact absurd isBlank (by decide)
    · obtain ⟨other, rfl⟩ := Draft.exists_literal_of_first startsWith isOpened
      rw [isDraft, Option.mem_def.1 isNext] at parts
      exact parts rfl noBlanks
  | special mark isSpecial =>
    simpa [Draft.kind, Draft.value, Draft.spelling] using
      Lexeme.Spelled.special isSpecial (piece.blanks ++ written later)
  | comment value oneLine =>
    refine .comment oneLine ?_
    intro c isFirst
    rw [isDraft] at parts
    rcases first_behind isFirst with ⟨isBlank, -⟩ | ⟨noBlanks, next, isNext, -⟩
    · cases isNext : first? later with
      | none =>
        rw [isNext] at parts
        exact parts c isBlank
      | some next =>
        rw [isNext] at parts
        obtain ⟨d, isHead, isEnd⟩ := parts
        obtain rfl : d = c := Option.some.inj (isHead.symm.trans isBlank)
        exact isEnd
    · rw [Option.mem_def.1 isNext] at parts
      obtain ⟨d, isHead, -⟩ := parts
      rw [noBlanks] at isHead
      cases isHead

end Piece

/-! ## Scanning what is written -/

namespace Scan

/-- A lexeme that is spelled in front becomes the first token. -/
theorem ofCharsFrom_of_spelled
    {kind : Token.Kind} {value spelling rest : List Char}
    (offset : Nat)
    (spelled : Lexeme.Spelled kind value spelling rest) :
    ofCharsFrom offset (spelling ++ rest) =
      ⟨Lexeme.token ⟨kind, value, spelling⟩ offset ::
          (ofCharsFrom (offset + Text.byteSize spelling) rest).raw,
        (ofCharsFrom (offset + Text.byteSize spelling) rest).fault⟩ := by
  obtain ⟨noBlanks, whole⟩ := Lexeme.takeWhile_append_of_ends (List.forall_mem_nil _)
    spelled.first_not_blank
  rw [List.nil_append] at noBlanks whole
  apply ofCharsFrom_of_lexeme
  · rw [noBlanks]
    rfl
  · rw [whole]
    exact spelled.read

/-- The kind and the value of each token. -/
def contents (tokens : List Token) : List (Token.Kind × String) :=
  tokens.map fun token => (token.kind, token.value)

/-- From any offset on, the tokens are the pieces. -/
theorem contents_ofCharsFrom_written
    {pieces : List Piece}
    (apart : Piece.Apart pieces) (offset : Nat) :
    (ofCharsFrom offset (Piece.written pieces)).fault = none ∧
      contents (ofCharsFrom offset (Piece.written pieces)).raw =
        pieces.map fun piece => (piece.draft.kind, piece.draft.value) := by
  induction pieces generalizing offset with
  | nil =>
    rw [Piece.written_nil, ofCharsFrom_nil]
    exact ⟨rfl, rfl⟩
  | cons piece later inductionHypothesis =>
    obtain ⟨parts, laterApart⟩ := apart
    have allBlank : piece.blanks.dropWhile Text.isBlank = [] :=
      List.dropWhile_eq_nil_iff.2 piece.allBlank
    rw [Piece.written_cons, ofCharsFrom_of_spelled offset (piece.spelled parts),
      ofCharsFrom_of_blank _ allBlank]
    obtain ⟨noFault, isContents⟩ := inductionHypothesis laterApart
      (offset + Text.byteSize piece.draft.spelling + Text.byteSize piece.blanks)
    refine ⟨noFault, ?_⟩
    rw [List.map_cons, ← isContents]
    simp [contents, Lexeme.token]

/-- A scan of what is written finds the pieces that it is written from, in their order, and the
parser sees all of them but the comments. -/
theorem ofChars_written
    {leading : List Char} {pieces : List Piece}
    (leadingBlank : ∀ c ∈ leading, Text.isBlank c = true)
    (apart : Piece.Apart pieces) :
    let scan := ofChars (leading ++ Piece.written pieces)
    scan.fault = none ∧
      contents scan.raw = pieces.map (fun piece => (piece.draft.kind, piece.draft.value)) ∧
      contents scan.tokens =
        (pieces.filter fun piece => piece.draft.kind ≠ .comment).map
          fun piece => (piece.draft.kind, piece.draft.value) := by
  intro scan
  have isScan : scan = ofCharsFrom (0 + Text.byteSize leading) (Piece.written pieces) :=
    ofCharsFrom_of_blank 0 (List.dropWhile_eq_nil_iff.2 leadingBlank) _
  obtain ⟨noFault, isContents⟩ := contents_ofCharsFrom_written apart (0 + Text.byteSize leading)
  rw [← isScan] at noFault isContents
  refine ⟨noFault, isContents, ?_⟩
  -- Whether something is a comment is told from the kind alone, so it can be asked of the contents.
  calc contents scan.tokens
      = (contents scan.raw).filter fun content => content.1 ≠ .comment := by
        simp [contents, tokens, Token.isComment, List.filter_map, Function.comp_def]
    _ = (pieces.filter fun piece => piece.draft.kind ≠ .comment).map
          fun piece => (piece.draft.kind, piece.draft.value) := by
        simp [isContents, List.filter_map, Function.comp_def]

/-- A name, two literals that touch it and each other, a comment with a line end behind it, marks
and another comment at the end. -/
def touchingPieces : List Piece :=
  [⟨.name "a_1" (by simp) (List.all_eq_true.1 (by decide +kernel)), [], by simp⟩,
    ⟨.literal '\'' "it's // \"x\"\n" rfl, [], by simp⟩,
    ⟨.literal '"' "'\"" rfl, [], by simp⟩,
    ⟨.comment " 'c" (by simp [Lexeme.isLineEnd]), ['\r'], List.all_eq_true.1 rfl⟩,
    ⟨.special '.' rfl, [], by simp⟩,
    ⟨.name "b" (by simp) (List.all_eq_true.1 (by decide +kernel)), [' '], List.all_eq_true.1 rfl⟩,
    ⟨.name "c" (by simp) (List.all_eq_true.1 (by decide +kernel)), [], by simp⟩,
    ⟨.comment "/" (by simp [Lexeme.isLineEnd]), [], by simp⟩]

theorem ofChars_touchingPieces :
    Piece.written touchingPieces =
        "a_1'it''s // \"x\"\n'\"'\"\"\"// 'c\r.b c///".toList ∧
      Piece.Apart touchingPieces ∧
      (ofChars (['\n'] ++ Piece.written touchingPieces)).fault = none ∧
      contents (ofChars (['\n'] ++ Piece.written touchingPieces)).tokens =
        [(.identifier, "a_1"), (.stringLiteral, "it's // \"x\"\n"), (.stringLiteral, "'\""),
          (.special, "."), (.identifier, "b"), (.identifier, "c")] := by
  have apart : Piece.Apart touchingPieces := by
    simp [touchingPieces, Piece.Apart, Piece.first?, Draft.Parts, Lexeme.isLineEnd]
  have leadingBlank : ∀ c ∈ ['\n'], Text.isBlank c = true :=
    List.all_eq_true.1 rfl
  obtain ⟨noFault, -, isContents⟩ := ofChars_written leadingBlank apart
  exact ⟨by decide +kernel, apart, noFault, isContents⟩

end Scan

end ConceptScript
