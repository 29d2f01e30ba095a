/-!
Contract: places in a text as editors name them.

Owns zero-based lines and columns and the move past one character.

Does not own what a column counts: characters inside the library, UTF-16 units on the wire.
-/

set_option autoImplicit false

namespace ConceptScript

structure Position where
  line : Nat
  column : Nat
  deriving DecidableEq, Repr

namespace Position

def zero : Position :=
  ⟨0, 0⟩

/-- Only a line feed starts a new line; a carriage return is a column of its line. -/
def after (position : Position) (c : Char) : Position :=
  if c = '\n' then ⟨position.line + 1, 0⟩ else ⟨position.line, position.column + 1⟩

end Position

end ConceptScript
