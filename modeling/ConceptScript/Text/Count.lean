/-!
Contract: counts written in decimal digits.

Owns the size limit of counts, what is no count, and which of several reasons is reported.

Does not own blanks around a count.
-/

set_option autoImplicit false

namespace ConceptScript.Count

/-- Counts have 64 bits. -/
def limit : Nat :=
  18446744073709551616

/-- Why a text is no count. -/
inductive Fault where
  | empty
  | invalidDigit
  | tooLarge
  deriving DecidableEq, Repr

def Fault.message : Fault → String
  | .empty => "cannot parse integer from empty string"
  | .invalidDigit => "invalid digit found in string"
  | .tooLarge => "number too large to fit in target type"

/-- Continues a count by the digits that follow. The first character at which the text stops being
a count decides why. -/
def readDigits (value : Nat) : List Char → Except Fault Nat
  | [] => .ok value
  | c :: rest =>
    if c.isDigit then
      let next := 10 * value + (c.toNat - '0'.toNat)
      if next < limit then readDigits next rest else .error .tooLarge
    else
      .error .invalidDigit

/-- Reads a count, which may have a plus sign in front. -/
def parse : List Char → Except Fault Nat
  | [] => .error .empty
  | ['+'] => .error .invalidDigit
  | '+' :: digits => readDigits 0 digits
  | digits => readDigits 0 digits

end ConceptScript.Count
