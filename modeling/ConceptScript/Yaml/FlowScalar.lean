import ConceptScript.Text.Hex
import ConceptScript.Yaml.Char

/-!
Contract: the values of plain and quoted scalars.

Owns line folding, escapes, and where such a scalar ends.

Does not own block scalars.
-/

set_option autoImplicit false

namespace ConceptScript.Yaml

/-! ## Folding of lines -/

/-- A value under construction: the text so far and the blanks and line ends behind it, which
count only if more text follows. All lists are last character first. -/
structure Folding where
  text : List Char := []
  blanks : List Char := []
  firstBreak : Option Char := none
  moreBreaks : List Char := []
  /-- A line has ended since the last character of the text. -/
  broken : Bool := false
  deriving DecidableEq, Repr

namespace Folding

/-- Blanks count only inside of a line. -/
def addBlank (folding : Folding) (c : Char) : Folding :=
  if folding.broken then folding else { folding with blanks := c :: folding.blanks }

def addBreak (folding : Folding) (c : Char) : Folding :=
  if folding.broken then { folding with moreBreaks := c :: folding.moreBreaks }
  else { folding with blanks := [], firstBreak := some c, broken := true }

/-- Adds what stands behind the text to it: blanks as they are, a single line feed as a space, and
of several line ends all but the first. A first line end other than a line feed stays. -/
def join (folding : Folding) : Folding :=
  let gap :=
    if folding.broken then
      match folding.firstBreak with
      | some '\n' => if folding.moreBreaks.isEmpty then [' '] else folding.moreBreaks
      | some other => folding.moreBreaks ++ [other]
      | none => folding.moreBreaks
    else
      folding.blanks
  { text := gap ++ folding.text }

/-- Adds a character of the text. -/
def push (folding : Folding) (c : Char) : Folding :=
  let joined := folding.join
  { joined with text := c :: joined.text }

/-- The end of a line that is not part of the value. -/
def escapeBreak (folding : Folding) : Folding :=
  { folding.join with broken := true }

/-- Whether blanks or a line end stand behind the text. -/
def atGap (folding : Folding) : Bool :=
  folding.broken || !folding.blanks.isEmpty

def value (folding : Folding) : String :=
  String.ofList folding.text.reverse

end Folding

/-! ## Quoted scalars -/

/-- The character of an escape with one letter. -/
def escapedChar? (c : Char) : Option Char :=
  match c with
  | '0' => some '\x00'
  | 'a' => some '\x07'
  | 'b' => some '\x08'
  | 't' | '\t' => some '\t'
  | 'n' => some '\n'
  | 'v' => some '\x0b'
  | 'f' => some '\x0c'
  | 'r' => some '\r'
  | 'e' => some '\x1b'
  | ' ' => some ' '
  | '"' => some '"'
  | '/' => some '/'
  | '\\' => some '\\'
  | 'N' => some '\u0085'
  | '_' => some '\u00a0'
  | 'L' => some '\u2028'
  | 'P' => some '\u2029'
  | _ => none

/-- The number of digits of an escape by code point. -/
def codeDigits? (c : Char) : Option Nat :=
  match c with
  | 'x' => some 2
  | 'u' => some 4
  | 'U' => some 8
  | _ => none

/-- Where in an escape a double-quoted scalar is. -/
inductive EscapeState where
  | outside
  | afterBackslash
  | inCode (digitsLeft code : Nat)
  deriving DecidableEq, Repr

/-- Reads a double-quoted scalar behind its opening quote. -/
def doubleQuoted (state : EscapeState) (folding : Folding) (mark : Mark) :
    List Char → Option (String × Input)
  | [] => none
  | c :: rest =>
    match state with
    | .inCode digitsLeft code =>
      match Text.hexValue? c with
      | none => none
      | some digit =>
        let code := code * 16 + digit
        if 1 < digitsLeft then
          doubleQuoted (.inCode (digitsLeft - 1) code) folding (mark.past c) rest
        else if code.isValidChar then
          doubleQuoted .outside (folding.push (Char.ofNat code)) (mark.past c) rest
        else
          none
    | .afterBackslash =>
      if isBreak c then doubleQuoted .outside folding.escapeBreak mark.down rest
      else
        match escapedChar? c, codeDigits? c with
        | some escaped, _ => doubleQuoted .outside (folding.push escaped) (mark.past c) rest
        | none, some digits => doubleQuoted (.inCode digits 0) folding (mark.past c) rest
        | none, none => none
    | .outside =>
      if mark.column = 0 && atDocumentMark (c :: rest) then none
      else if isSpace c then doubleQuoted .outside (folding.addBlank c) (mark.past c) rest
      else if isBreak c then doubleQuoted .outside (folding.addBreak c) mark.down rest
      else if c = '"' then some (folding.join.value, ⟨mark.past c, rest⟩)
      else if c = '\\' then doubleQuoted .afterBackslash folding.join (mark.past c) rest
      else doubleQuoted .outside (folding.push c) (mark.past c) rest

/-- Reads a single-quoted scalar behind its opening quote. A quote written twice stands for
itself. -/
def singleQuoted (folding : Folding) (mark : Mark) : List Char → Option (String × Input)
  | [] => none
  | '\'' :: '\'' :: rest => singleQuoted (folding.push '\'') ((mark.past '\'').past '\'') rest
  | c :: rest =>
    if mark.column = 0 && atDocumentMark (c :: rest) then none
    else if isSpace c then singleQuoted (folding.addBlank c) (mark.past c) rest
    else if isBreak c then singleQuoted (folding.addBreak c) mark.down rest
    else if c = '\'' then some (folding.join.value, ⟨mark.past c, rest⟩)
    else singleQuoted (folding.push c) (mark.past c) rest

/-! ## Plain scalars -/

/-- The marks of flow collections. -/
def isFlowMark (c : Char) : Bool :=
  c = ',' || c = '[' || c = ']' || c = '\x7b' || c = '\x7d'

/-- A plain scalar, whether a line has ended behind it, and the input behind the blanks and line
ends that follow it. -/
structure PlainScalar where
  value : String
  broken : Bool
  input : Input
  deriving DecidableEq, Repr

/-- Whether a plain scalar ends in front of the character at a place, with blanks in front of it or
not. Outside of flow collections text that continues on a later line is indented. -/
def plainEnds (inFlow : Bool) (indent : Nat) (afterGap : Bool) (mark : Mark) (c : Char)
    (rest : List Char) : Bool :=
  (afterGap && ((!inFlow && mark.column < indent) ||
    (mark.column = 0 && atDocumentMark (c :: rest)) || c = '#')) ||
    (c = ':' && atGap rest) || (inFlow && isFlowMark c)

/-- Reads a plain scalar. `none` for a tab as indentation, and in flow collections for a colon in
front of another mark. -/
def plainScalar (inFlow : Bool) (indent : Nat) (folding : Folding) (mark : Mark) :
    List Char → Option PlainScalar
  | [] => some ⟨folding.value, folding.broken, ⟨mark, []⟩⟩
  | c :: rest =>
    if isSpace c then
      if folding.broken && c = '\t' && mark.column < indent then none
      else plainScalar inFlow indent (folding.addBlank c) (mark.past c) rest
    else if isBreak c then plainScalar inFlow indent (folding.addBreak c) mark.down rest
    else if folding.atGap && plainEnds inFlow indent true mark c rest then
      some ⟨folding.value, folding.broken, ⟨mark, c :: rest⟩⟩
    else if inFlow && c = ':' && rest.head?.any fun d => isFlowMark d || d = '?' then none
    else if plainEnds inFlow indent false mark c rest then
      some ⟨folding.value, folding.broken, ⟨mark, c :: rest⟩⟩
    else plainScalar inFlow indent (folding.push c) (mark.past c) rest

end ConceptScript.Yaml
