import ConceptScript.Json.Reader
import ConceptScript.Yaml.Layout

/-!
Contract: the spelling of anchors, aliases, tags and directives.

Owns names, tag handles, percent-encoded bytes, and what may follow each of them.

Does not own what tags mean.
-/

set_option autoImplicit false

namespace ConceptScript.Yaml

def bytesOf (chars : List Char) : TagText :=
  (String.ofList chars).toUTF8.toList

/-- The characters of tags. Inside of angle brackets flow marks may stand, too. -/
def isTagChar (verbatim : Bool) (c : Char) : Bool :=
  isWordChar c || ";/?:@&=+$.!~*'()".toList.contains c ||
    (verbatim && (c = ',' || c = '[' || c = ']'))

/-- The number of bytes that follow the first byte of a character. -/
def trailingBytes? (first : Nat) : Option Nat :=
  if first < 0x80 then some 0
  else if 0xC0 ≤ first ∧ first < 0xE0 then some 1
  else if 0xE0 ≤ first ∧ first < 0xF0 then some 2
  else if 0xF0 ≤ first ∧ first < 0xF8 then some 3
  else none

/-- Reads the characters of a tag. `owed` bytes of a percent-encoded character are still missing. -/
def tagChars (verbatim : Bool) : (owed : Nat) → List Char → Option (TagText × List Char)
  | owed, '%' :: high :: low :: rest =>
    match Text.hexValue? high, Text.hexValue? low with
    | some high, some low =>
      let byte := high * 16 + low
      let owed :=
        match owed with
        | 0 => trailingBytes? byte
        | owed + 1 => if 0x80 ≤ byte ∧ byte < 0xC0 then some owed else none
      match owed with
      | some owed =>
        (tagChars verbatim owed rest).map fun (bytes, rest) => (byte.toUInt8 :: bytes, rest)
      | none => none
    | _, _ => none
  | 0, c :: rest =>
    if isTagChar verbatim c then
      (tagChars verbatim 0 rest).map fun (bytes, rest) => (c.toNat.toUInt8 :: bytes, rest)
    else if c = '%' then none
    else some ([], c :: rest)
  | 0, [] => some ([], [])
  | _ + 1, _ => none

/-- The characters of a tag at a place, and the input behind them. -/
def tagText? (verbatim : Bool) (input : Input) : Option (TagText × Input) :=
  (tagChars verbatim 0 input.chars).map fun (bytes, rest) =>
    (bytes, input.skip (input.chars.length - rest.length))

/-- A tag ends where a zero byte stands in it, whatever is written behind. -/
def untilZero (text : TagText) : TagText :=
  text.takeWhile (· ≠ 0)

/-- Reads an exclamation mark, a word behind it, and another exclamation mark if one follows. -/
def tagHandle (input : Input) : List Char × Input :=
  let (word, input) := (input.skip 1).takeRun isWordChar
  if input.chars.head? = some '!' then ('!' :: word ++ ['!'], input.skip 1)
  else ('!' :: word, input)

/-- A handle that is not just an exclamation mark ends with one. -/
def isNamedHandle (handle : List Char) : Bool :=
  1 < handle.length && handle.getLast? = some '!'

/-- Reads a tag in its full form, in the form with a handle, or in the local form. A lone
exclamation mark is a tag without handle. -/
def tag? (inFlow : Bool) (input : Input) : Option (Token × Input) := do
  let (token, input) ←
    if (input.chars.drop 1).head? = some '<' then do
      let (text, input) ← tagText? true (input.skip 2)
      if text.isEmpty || input.chars.head? ≠ some '>' then none
      some (Token.tag [] (untilZero text), input.skip 1)
    else
      let (handle, input) := tagHandle input
      if isNamedHandle handle then do
        let (suffix, input) ← tagText? false input
        if suffix.isEmpty then none
        some (Token.tag handle (untilZero suffix), input)
      else do
        let (more, input) ← tagText? false input
        let suffix := untilZero (bytesOf (handle.drop 1) ++ more)
        if suffix.isEmpty then some (Token.tag [] (bytesOf ['!']), input)
        else some (Token.tag ['!'] suffix, input)
  if atGap input.chars || (inFlow && input.chars.head? = some ',') then some (token, input)
  else none

/-- Reads the name of an anchor or alias behind its mark. -/
def anchorName? (input : Input) : Option (List Char × Input) :=
  let (name, input) := input.takeRun isWordChar
  let follows := atGap input.chars ||
    input.chars.head?.any fun c => "?:,]\x7d%@`".toList.contains c
  if name.isEmpty || !follows then none else some (name, input)

/-- A number of at most nine digits. -/
def versionNumber? (input : Input) : Option (Nat × Input) :=
  let (digits, input) := input.takeRun Char.isDigit
  if digits.isEmpty || 9 < digits.length then none else some (Json.digitsValue digits, input)

def versionDirective? (input : Input) : Option (Token × Input) := do
  let (major, input) ← versionNumber? (input.skipRun isSpace)
  if input.chars.head? ≠ some '.' then none
  let (minor, input) ← versionNumber? (input.skip 1)
  some (.versionDirective major minor, input)

def tagDirective? (input : Input) : Option (Token × Input) := do
  let input := input.skipRun isSpace
  if input.chars.head? ≠ some '!' then none
  let (handle, input) := tagHandle input
  if handle ≠ ['!'] && !isNamedHandle handle then none
  if !input.chars.head?.any isSpace then none
  let (expansion, input) ← tagText? true (input.skipRun isSpace)
  if expansion.isEmpty || !atGap input.chars then none
  some (.tagDirective handle (untilZero expansion), input)

/-- Reads a directive line behind its percent sign. -/
def directive? (input : Input) : Option (Token × Input) := do
  let (name, input) := input.takeRun isWordChar
  if name.isEmpty || !atGap input.chars then none
  let (token, input) ←
    if name = "YAML".toList then versionDirective? input
    else if name = "TAG".toList then tagDirective? input
    else none
  some (token, ← input.endLine?)

end ConceptScript.Yaml
