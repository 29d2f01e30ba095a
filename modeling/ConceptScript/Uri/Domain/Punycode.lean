/-!
Contract: labels of domain names in ASCII.

Owns the writing of a label with other characters as a label of ASCII characters, and the reading of
such a label. The ASCII characters of the label come first. Behind them stand, in the order of their
code points, the other characters: each as the number of places that lie between it and the
character before, counted over all places and all code points.

Does not own the sign that tells such a label from others.
-/

set_option autoImplicit false

namespace ConceptScript.Uri.Punycode

/-! ## Digits -/

def digit (value : Nat) : Char :=
  Char.ofNat (if value < 26 then 0x61 + value else 0x30 + (value - 26))

def value? (c : Char) : Option Nat :=
  if 'a' ≤ c ∧ c ≤ 'z' then some (c.toNat - 0x61)
  else if 'A' ≤ c ∧ c ≤ 'Z' then some (c.toNat - 0x41)
  else if '0' ≤ c ∧ c ≤ '9' then some (c.toNat - 0x30 + 26)
  else none

/-- Digits below the threshold end a number. The threshold rises with the position of the digit, and
falls with the size of the numbers that are to be expected. -/
def threshold (bias position : Nat) : Nat :=
  min 26 (max 1 (position - bias))

theorem threshold_pos (bias position : Nat) : 0 < threshold bias position := by
  unfold threshold; omega

/-- The digits of a number, those of least weight first. -/
def digits (bias position number : Nat) : List Char :=
  let least := threshold bias position
  if number < least then [digit number]
  else
    digit (least + (number - least) % (36 - least)) ::
      digits bias (position + 36) ((number - least) / (36 - least))
termination_by number
decreasing_by
  have positive := threshold_pos bias position
  have smaller := Nat.div_le_self (number - threshold bias position) (36 - threshold bias position)
  omega

/-- Reads a number and gives the rest. -/
def number? (bias : Nat) : (position weight : Nat) → List Char → Option (Nat × List Char)
  | _, _, [] => none
  | position, weight, c :: rest =>
    match value? c with
    | none => none
    | some value =>
      if value < threshold bias position then some (value * weight, rest)
      else
        (number? bias (position + 36) (weight * (36 - threshold bias position)) rest).map
          fun (higher, rest) => (value * weight + higher, rest)

theorem length_of_number? {bias position weight number : Nat} {chars rest : List Char}
    (read : number? bias position weight chars = some (number, rest)) :
    rest.length < chars.length := by
  induction chars generalizing position weight number with
  | nil => simp [number?] at read
  | cons c chars inductionHypothesis =>
    rw [number?] at read
    split at read
    · simp at read
    · split at read
      · simp_all
      · obtain ⟨⟨higher, left⟩, readHigher, same⟩ := Option.map_eq_some_iff.mp read
        simp only [Prod.mk.injEq] at same
        obtain ⟨_, rfl⟩ := same
        exact Nat.lt_succ_of_lt (inductionHypothesis readHigher)

/-! ## The expected size of numbers -/

def biasOf (position delta : Nat) : Nat :=
  if 455 < delta then biasOf (position + 36) (delta / 35) else position + 36 * delta / (delta + 38)
termination_by delta
decreasing_by omega

/-- The bias behind a number, when the label has that many characters. The first number is far
greater than the others, because it starts from the first code point. -/
def nextBias (isFirst : Bool) (characters number : Nat) : Nat :=
  let delta := number / if isFirst then 700 else 2
  biasOf 0 (delta + delta / characters)

def firstBias : Nat := 72

/-- The first code point outside of ASCII. -/
def firstCode : Nat := 0x80

/-! ## Writing -/

/-- The numbers that are written so far, for the first `written` characters of a label. -/
structure Writer where
  text : List Char
  bias : Nat
  /-- The places since the last character. -/
  delta : Nat
  written : Nat

namespace Writer

/-- Passes a character of the label in the round for one code point. -/
def pass (basic code : Nat) (writer : Writer) (c : Char) : Writer :=
  if c.toNat < code then { writer with delta := writer.delta + 1 }
  else if c.toNat = code then
    { text := writer.text ++ digits writer.bias 36 writer.delta
      bias := nextBias (writer.written = basic) (writer.written + 1) writer.delta
      delta := 0
      written := writer.written + 1 }
  else writer

/-- Rounds for code points in increasing order, of which `code` is the first not yet passed. -/
def rounds (label : List Char) (basic : Nat) : (code : Nat) → List Nat → Writer → Writer
  | _, [], writer => writer
  | code, next :: later, writer =>
    let skipped := { writer with delta := writer.delta + (next - code) * (writer.written + 1) }
    let passed := label.foldl (pass basic next) skipped
    rounds label basic (next + 1) later { passed with delta := passed.delta + 1 }

end Writer

/-- The code points outside of ASCII, each once and in increasing order. -/
def codesOf (label : List Char) : List Nat :=
  (((label.map Char.toNat).filter (firstCode ≤ ·)).mergeSort (· ≤ ·)).eraseDups

def encode (label : List Char) : List Char :=
  let basic := label.filter fun c => c.toNat < firstCode
  let delimiter := if basic.isEmpty then [] else ['-']
  let start : Writer := ⟨[], firstBias, 0, basic.length⟩
  basic ++ delimiter ++ (Writer.rounds label basic.length firstCode (codesOf label) start).text

/-! ## Reading -/

/-- Puts the characters that numbers stand for into a label, the next of them at `place` or behind
it. -/
def insertAll? (bias code place : Nat) (label chars : List Char) : Option (List Char) :=
  match chars with
  | [] => some label
  | c :: chars =>
    match read : number? bias 36 1 (c :: chars) with
    | none => none
    | some (number, rest) =>
      let characters := label.length + 1
      let bias := nextBias (place = 0) characters number
      let code := code + (place + number) / characters
      let place := (place + number) % characters
      if code.isValidChar then
        insertAll? bias code (place + 1) (label.insertIdx place (Char.ofNat code)) rest
      else none
termination_by chars.length
decreasing_by
  have shorter := length_of_number? read
  simpa using shorter

/-- The ASCII characters stand before the last delimiter, if there is one. -/
def decode? (text : List Char) : Option (List Char) :=
  let numbers := (text.reverse.takeWhile (· ≠ '-')).reverse
  let basic := (text.reverse.dropWhile (· ≠ '-')).drop 1 |>.reverse
  if basic.all fun c => c.toNat < firstCode then insertAll? firstBias firstCode 0 basic numbers
  else none

end ConceptScript.Uri.Punycode
