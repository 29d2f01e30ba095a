import ConceptScript.Text.Hex

/-!
Contract: numeric addresses of hosts.

Owns the spellings of addresses with 32 and 128 bits and the one spelling they are given.

Does not own names of hosts.
-/

set_option autoImplicit false

namespace ConceptScript.Uri

/-- Divides characters at each separator. -/
def splitAt (isSeparator : Char → Bool) : List Char → List (List Char)
  | [] => [[]]
  | c :: rest =>
    if isSeparator c then [] :: splitAt isSeparator rest
    else
      match splitAt isSeparator rest with
      | [] => [[c]]
      | part :: later => (c :: part) :: later

/-- The value of digits in a base up to sixteen; `none` if one of them is no such digit. -/
def digitsValue? (base : Nat) (digits : List Char) : Option Nat :=
  digits.foldlM (fun value c =>
    match Text.hexValue? c with
    | some digit => if digit < base then some (value * base + digit) else none
    | none => none) 0

/-! ## Addresses with 32 bits -/

/-- A number of such an address: hexadecimal behind `0x`, octal behind `0`, or decimal. -/
def addressNumber? : List Char → Option Nat
  | [] => none
  | '0' :: 'x' :: digits => digitsValue? 16 digits
  | '0' :: 'X' :: digits => digitsValue? 16 digits
  | '0' :: digit :: digits => digitsValue? 8 (digit :: digits)
  | digits => digitsValue? 10 digits

/-- The parts of a name between its points. A point at the end divides nothing. -/
def nameParts (name : List Char) : List (List Char) :=
  let parts := splitAt (· = '.') name
  if 1 < parts.length ∧ parts.getLast? = some [] then parts.dropLast else parts

/-- A host whose last part is a number is meant as an address. -/
def endsInNumber (name : List Char) : Bool :=
  match (nameParts name).getLast? with
  | none => false
  | some [] => false
  | some part => part.all Char.isDigit || (addressNumber? part).isSome

/-- The number of all addresses, and behind it what a number in each of the four places counts. -/
def weights32 : List Nat :=
  [0x100000000, 0x1000000, 0x10000, 0x100, 1]

/-- The last of up to four numbers fills the bytes that are left. -/
def address32? (name : List Char) : Option Nat := do
  let parts := nameParts name
  if 4 < parts.length then none
  let numbers ← parts.mapM addressNumber?
  let front := numbers.dropLast
  let last ← numbers.getLast?
  let limit ← weights32[front.length]?
  if front.any (255 < ·) || limit ≤ last then none
  some ((List.zipWith (· * ·) front (weights32.drop 1)).foldl (· + ·) last)

def decimal (value : Nat) : List Char :=
  Nat.toDigits 10 value

def renderAddress32 (address : Nat) : List Char :=
  ['.'].intercalate ((weights32.drop 1).map fun weight => decimal (address / weight % 256))

/-! ## Addresses with 128 bits -/

/-- One to four hexadecimal digits. -/
def piece? (digits : List Char) : Option Nat :=
  if digits.isEmpty || 4 < digits.length then none else digitsValue? 16 digits

/-- A decimal number below 256 without zeros in front. -/
def plainByte? (digits : List Char) : Option Nat := do
  if digits.isEmpty || (1 < digits.length && digits.head? = some '0') then none
  (← digitsValue? 10 digits) |> fun value => if value < 256 then some value else none

/-- The last two pieces may be written as four bytes. -/
def bytePieces? (part : List Char) : Option (List Nat) := do
  match ← (splitAt (· = '.') part).mapM plainByte? with
  | [a, b, c, d] => some [a * 256 + b, c * 256 + d]
  | _ => none

/-- Pieces between colons, of which the last ones may be written as bytes. -/
def pieces? (bytesAllowed : Bool) (text : List Char) : Option (List Nat) := do
  if text.isEmpty then some []
  else
    let parts := splitAt (· = ':') text
    let last ← parts.getLast?
    let front ← parts.dropLast.mapM piece?
    if bytesAllowed && last.contains '.' then some (front ++ (← bytePieces? last))
    else some (front ++ [← piece? last])

/-- What stands in front of the first double colon and what stands behind it. -/
def splitAtDoubleColon? : List Char → Option (List Char × List Char)
  | ':' :: ':' :: rest => some ([], rest)
  | c :: rest => (splitAtDoubleColon? rest).map fun (front, back) => (c :: front, back)
  | [] => none

/-- Eight pieces. A double colon stands for at least one piece that is zero. -/
def address128? (text : List Char) : Option (List Nat) := do
  match splitAtDoubleColon? text with
  | some (front, back) =>
    let front ← pieces? false front
    let back ← pieces? true back
    let written := front.length + back.length
    if written ≤ 7 then some (front ++ List.replicate (8 - written) 0 ++ back) else none
  | none =>
    let pieces ← pieces? true text
    if pieces.length = 8 then some pieces else none

/-- The number of zeros in front. -/
def leadingZeros (pieces : List Nat) : Nat :=
  (pieces.takeWhile (· = 0)).length

/-- The length of the longest run of zeros. -/
def longestRun : List Nat → Nat
  | [] => 0
  | piece :: later => max (leadingZeros (piece :: later)) (longestRun later)

/-- The pieces in front of the first run of zeros of a length, and those behind it. -/
def splitAtRun (length : Nat) : List Nat → List Nat × List Nat
  | [] => ([], [])
  | piece :: later =>
    if leadingZeros (piece :: later) = length then ([], (piece :: later).drop length)
    else
      let (front, back) := splitAtRun length later
      (piece :: front, back)

def renderPieces (pieces : List Nat) : List Char :=
  [':'].intercalate (pieces.map (Nat.toDigits 16))

/-- The first of the longest runs of zeros is left out if it has two pieces or more. -/
def renderAddress128 (pieces : List Nat) : List Char :=
  let run := longestRun pieces
  if run < 2 then renderPieces pieces
  else
    let (front, back) := splitAtRun run pieces
    renderPieces front ++ ':' :: ':' :: renderPieces back

end ConceptScript.Uri
