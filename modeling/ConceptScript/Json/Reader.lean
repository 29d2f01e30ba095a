import ConceptScript.Json.Basic
import ConceptScript.Text.Hex

/-!
Contract: reading wire values from text.

Owns the grammar of values, numbers, strings and escapes.

Does not own framing of messages on a stream.
-/

set_option autoImplicit false

namespace ConceptScript.Json

/-- What is read from the front of the characters, and the characters after it. -/
abbrev Reading (α : Type) := Option (α × List Char)

def skipSpace (chars : List Char) : List Char :=
  chars.dropWhile fun c => c = ' ' || c = '\t' || c = '\n' || c = '\r'

/-- Four hexadecimal digits. -/
def readUnit : List Char → Option (Nat × List Char)
  | a :: b :: c :: d :: rest => do
    let a ← Text.hexValue? a
    let b ← Text.hexValue? b
    let c ← Text.hexValue? c
    let d ← Text.hexValue? d
    return (((a * 16 + b) * 16 + c) * 16 + d, rest)
  | _ => none

/-- The character of the escape after a backslash. Two surrogate units make one character; a
lone one makes none. -/
def readEscape : List Char → Reading Char
  | '"' :: rest => some ('"', rest)
  | '\\' :: rest => some ('\\', rest)
  | '/' :: rest => some ('/', rest)
  | 'b' :: rest => some ('\x08', rest)
  | 'f' :: rest => some ('\x0c', rest)
  | 'n' :: rest => some ('\n', rest)
  | 'r' :: rest => some ('\r', rest)
  | 't' :: rest => some ('\t', rest)
  | 'u' :: rest =>
    match readUnit rest with
    | none => none
    | some (first, rest) =>
      if first < 0xD800 ∨ 0xE000 ≤ first then
        some (Char.ofNat first, rest)
      else if first < 0xDC00 then
        match rest with
        | '\\' :: 'u' :: tail =>
          match readUnit tail with
          | some (second, tail) =>
            if 0xDC00 ≤ second ∧ second < 0xE000 then
              some (Char.ofNat (0x10000 + (first - 0xD800) * 0x400 + (second - 0xDC00)), tail)
            else
              none
          | none => none
        | _ => none
      else
        none
  | _ => none

/-- The characters of a string after its opening quote. Every round takes at least one character,
so as many rounds as there are characters are enough. -/
def readChars : (rounds : Nat) → List Char → Reading (List Char)
  | 0, _ => none
  | _, [] => none
  | rounds + 1, c :: rest =>
    if c = '"' then some ([], rest)
    else if c = '\\' then
      match readEscape rest with
      | some (escaped, rest) =>
        (readChars rounds rest).map fun (chars, rest) => (escaped :: chars, rest)
      | none => none
    else if c.toNat < 0x20 then none
    else (readChars rounds rest).map fun (chars, rest) => (c :: chars, rest)

def readString (chars : List Char) : Reading String :=
  (readChars chars.length chars).map fun (content, rest) => (String.ofList content, rest)

/-- At least one digit. -/
def readDigits (chars : List Char) : Reading (List Char) :=
  match chars.span Char.isDigit with
  | ([], _) => none
  | (digits, rest) => some (digits, rest)

def digitsValue (digits : List Char) : Nat :=
  digits.foldl (fun value digit => value * 10 + (digit.toNat - 0x30)) 0

/-- The fraction of a number, if one follows. -/
def readFraction : List Char → Reading (List Char)
  | '.' :: rest => (readDigits rest).map fun (digits, rest) => ('.' :: digits, rest)
  | rest => some ([], rest)

/-- The exponent of a number, if one follows. -/
def readExponent : List Char → Reading (List Char)
  | c :: rest =>
    if c = 'e' ∨ c = 'E' then
      match rest with
      | '+' :: rest => (readDigits rest).map fun (digits, rest) => (c :: '+' :: digits, rest)
      | '-' :: rest => (readDigits rest).map fun (digits, rest) => (c :: '-' :: digits, rest)
      | rest => (readDigits rest).map fun (digits, rest) => (c :: digits, rest)
    else
      some ([], c :: rest)
  | [] => some ([], [])

def readUnsigned (negative : Bool) (chars : List Char) : Option (Json × List Char) := do
  let (digits, rest) ← readDigits chars
  if digits.length > 1 ∧ digits.head? = some '0' then
    none
  let (fraction, rest) ← readFraction rest
  let (exponent, rest) ← readExponent rest
  let value := digitsValue digits
  let sign := if negative then ['-'] else []
  if fraction.isEmpty ∧ exponent.isEmpty ∧ ¬(negative ∧ value = 0) then
    return (.integer (if negative then -(value : Int) else value), rest)
  else
    return (.decimal (String.ofList (sign ++ digits ++ fraction ++ exponent)), rest)

def readNumber : List Char → Reading Json
  | '-' :: rest => readUnsigned true rest
  | rest => readUnsigned false rest

mutual

/-- A value at the front. The depth and the number of items are both at most the number of
characters, which bounds the rounds. -/
def readValue : (rounds : Nat) → List Char → Reading Json
  | 0, _ => none
  | rounds + 1, chars =>
    match skipSpace chars with
    | 'n' :: 'u' :: 'l' :: 'l' :: rest => some (.null, rest)
    | 't' :: 'r' :: 'u' :: 'e' :: rest => some (.bool true, rest)
    | 'f' :: 'a' :: 'l' :: 's' :: 'e' :: rest => some (.bool false, rest)
    | '"' :: rest => (readString rest).map fun (text, rest) => (.string text, rest)
    | '[' :: rest =>
      match skipSpace rest with
      | ']' :: rest => some (.array [], rest)
      | rest => (readItems rounds rest).map fun (items, rest) => (.array items, rest)
    | '\x7b' :: rest =>
      match skipSpace rest with
      | '\x7d' :: rest => some (.object [], rest)
      | rest => (readFields rounds rest).map fun (fields, rest) => (.object fields, rest)
    | rest => readNumber rest

def readItems : (rounds : Nat) → List Char → Reading (List Json)
  | 0, _ => none
  | rounds + 1, chars =>
    match readValue rounds chars with
    | none => none
    | some (item, rest) =>
      match skipSpace rest with
      | ']' :: rest => some ([item], rest)
      | ',' :: rest => (readItems rounds rest).map fun (items, rest) => (item :: items, rest)
      | _ => none

def readFields : (rounds : Nat) → List Char → Reading (List (String × Json))
  | 0, _ => none
  | rounds + 1, chars =>
    match skipSpace chars with
    | '"' :: rest =>
      match readString rest with
      | none => none
      | some (key, rest) =>
        match skipSpace rest with
        | ':' :: rest =>
          match readValue rounds rest with
          | none => none
          | some (value, rest) =>
            match skipSpace rest with
            | '\x7d' :: rest => some ([(key, value)], rest)
            | ',' :: rest =>
              (readFields rounds rest).map fun (fields, rest) => ((key, value) :: fields, rest)
            | _ => none
        | _ => none
    | _ => none

end

/-- The value that is the whole text. -/
def parse? (text : String) : Option Json :=
  let chars := text.toList
  match readValue (chars.length + 1) chars with
  | some (value, rest) => if (skipSpace rest).isEmpty then some value else none
  | none => none

end ConceptScript.Json
