import ConceptScript.Json.Basic
import ConceptScript.Text.Hex

/-!
Contract: the text form of wire values.

Owns escaping of strings and the compact one-line layout.

Does not own framing of messages on a stream.
-/

set_option autoImplicit false

namespace ConceptScript.Json

/-- Control characters and the other characters that end a line somewhere: next line, line
separator and paragraph separator. Where they are escaped, a value is one line to every reader. -/
def mayEndLine (c : Char) : Bool :=
  c.toNat < 0x20 || c = '\u0085' || c = '\u2028' || c = '\u2029'

/-- A character by its code in four hexadecimal digits. -/
def escapeCode (code : Nat) : List Char :=
  let digit (weight : Nat) : Char := Text.hexDigit (code / weight % 16)
  ['\\', 'u', digit 4096, digit 256, digit 16, digit 1]

/-- A quote, a backslash and what may end a line are escaped; all else stands as it is. -/
def escapeChar (c : Char) : List Char :=
  if c = '"' then ['\\', '"']
  else if c = '\\' then ['\\', '\\']
  else if mayEndLine c then escapeCode c.toNat
  else [c]

def quote (text : String) : String :=
  "\"" ++ String.ofList (text.toList.flatMap escapeChar) ++ "\""

mutual

def render : Json → String
  | .null => "null"
  | .bool true => "true"
  | .bool false => "false"
  | .integer value => toString value
  | .decimal literal => literal
  | .string value => quote value
  | .array items => "[" ++ ",".intercalate (renderItems items) ++ "]"
  | .object fields => "\x7b" ++ ",".intercalate (renderFields fields) ++ "\x7d"

def renderItems : List Json → List String
  | [] => []
  | item :: rest => render item :: renderItems rest

def renderFields : List (String × Json) → List String
  | [] => []
  | (key, value) :: rest => (quote key ++ ":" ++ render value) :: renderFields rest

end

end ConceptScript.Json
