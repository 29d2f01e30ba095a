/-!
Contract: the characters of YAML text.

Owns which characters a text may hold, which of them end a line, and the place of a character.

Does not own tokens.
-/

set_option autoImplicit false

namespace ConceptScript.Yaml

/-- A text holds no control characters other than tab, line feed, carriage return and next line,
and no code point that is not a character. -/
def isAllowed (c : Char) : Bool :=
  let code := c.toNat
  code = 0x9 || code = 0xA || code = 0xD || (0x20 ≤ code && code ≤ 0x7E) || code = 0x85 ||
    (0xA0 ≤ code && code ≤ 0xD7FF) || (0xE000 ≤ code && code ≤ 0xFFFD) || 0x10000 ≤ code

/-- Writes every line end that counts as a line feed as a line feed. The line and paragraph
separators stay: they end a line too, but are kept in values. -/
def normalizeBreaks : List Char → List Char
  | [] => []
  | '\r' :: '\n' :: rest => '\n' :: normalizeBreaks rest
  | c :: rest => (if c = '\r' || c = '\u0085' then '\n' else c) :: normalizeBreaks rest

/-- The characters that end a line once line ends are normalized. -/
def isBreak (c : Char) : Bool :=
  c = '\n' || c = '\u2028' || c = '\u2029'

def isSpace (c : Char) : Bool :=
  c = ' ' || c = '\t'

/-- Whether a blank, a line end or the end of the text comes next. -/
def atGap : List Char → Bool
  | [] => true
  | c :: _ => isSpace c || isBreak c

/-- The characters of anchors, tag handles and directive names. -/
def isWordChar (c : Char) : Bool :=
  c.isAlphanum || c = '_' || c = '-'

/-- A mark of three dashes or three dots, which stands at the start of a line between documents. -/
def atDocumentMark : List Char → Bool
  | '-' :: '-' :: '-' :: rest => atGap rest
  | '.' :: '.' :: '.' :: rest => atGap rest
  | _ => false

/-- The place of a character. -/
structure Mark where
  line : Nat := 0
  /-- The number of characters in front of it on its line. -/
  column : Nat := 0
  /-- The number of bytes in front of it on its line. -/
  offset : Nat := 0
  deriving DecidableEq, Repr

namespace Mark

/-- The place behind a character that does not end its line. -/
def past (mark : Mark) (c : Char) : Mark :=
  { mark with column := mark.column + 1, offset := mark.offset + c.utf8Size }

def down (mark : Mark) : Mark :=
  { line := mark.line + 1 }

/-- The place behind a character. -/
def after (mark : Mark) (c : Char) : Mark :=
  if isBreak c then mark.down else mark.past c

end Mark

/-- The characters that are still to be read, and where the first of them stands. -/
structure Input where
  mark : Mark
  chars : List Char
  deriving DecidableEq, Repr

namespace Input

/-- Skips characters of one line. -/
def skip (input : Input) (count : Nat) : Input :=
  ⟨(input.chars.take count).foldl Mark.past input.mark, input.chars.drop count⟩

/-- The longest run of characters with a property, all on one line, and the input behind it. -/
def takeRun (input : Input) (holds : Char → Bool) : List Char × Input :=
  let run := input.chars.takeWhile holds
  (run, input.skip run.length)

def skipRun (input : Input) (holds : Char → Bool) : Input :=
  (input.takeRun holds).2

/-- Skips blanks and a comment up to the end of the line; `none` if anything else stands there. -/
def endLine? (input : Input) : Option Input :=
  let input := input.skipRun isSpace
  let input :=
    if input.chars.head? = some '#' then input.skipRun fun c => !isBreak c else input
  match input.chars with
  | [] => some input
  | c :: rest => if isBreak c then some ⟨input.mark.down, rest⟩ else none

end Input

end ConceptScript.Yaml
