import ConceptScript.Text.Hex

/-!
Contract: characters of addresses that are written as bytes behind percent signs.

Owns which characters are written so in which part of an address, and both directions.

Does not own the parts themselves.
-/

set_option autoImplicit false

namespace ConceptScript.Uri

/-! ## The characters that are encoded -/

/-- Control characters and all characters outside of ASCII are encoded everywhere. -/
def isEncodedEverywhere (c : Char) : Bool :=
  c.toNat < 0x20 || 0x7F ≤ c.toNat

def isEncodedInFragment (c : Char) : Bool :=
  isEncodedEverywhere c || " \"<>`".toList.contains c

/-- In the query of a special scheme the apostrophe is encoded, too. -/
def isEncodedInQuery (special : Bool) (c : Char) : Bool :=
  isEncodedEverywhere c || " \"#<>".toList.contains c || (special && c = '\'')

def isEncodedInPath (c : Char) : Bool :=
  isEncodedInFragment c || "#?\x7b\x7d".toList.contains c

def isEncodedInUserinfo (c : Char) : Bool :=
  isEncodedInPath c || "/:;=@[\\]^|".toList.contains c

/-! ## Encoding -/

def bytesOf (chars : List Char) : List UInt8 :=
  (String.ofList chars).toUTF8.toList

/-- A percent sign and two digits. -/
def encodeByte (byte : UInt8) : List Char :=
  ['%', (Text.hexDigit (byte.toNat / 16)).toUpper, (Text.hexDigit (byte.toNat % 16)).toUpper]

/-- Writes the bytes of the characters with a property behind percent signs. A percent sign that is
there already stays. -/
def percentEncode (isEncoded : Char → Bool) (chars : List Char) : List Char :=
  chars.flatMap fun c => if isEncoded c then (bytesOf [c]).flatMap encodeByte else [c]

/-! ## Decoding -/

/-- The bytes of a text in which every percent sign with two digits behind it stands for a byte. -/
def percentDecode : List Char → List UInt8
  | [] => []
  | '%' :: high :: low :: rest =>
    match Text.hexValue? high, Text.hexValue? low with
    | some high, some low => (high * 16 + low).toUInt8 :: percentDecode rest
    | _, _ => bytesOf ['%'] ++ percentDecode (high :: low :: rest)
  | c :: rest => bytesOf [c] ++ percentDecode rest

end ConceptScript.Uri
