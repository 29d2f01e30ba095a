/-!
Contract: how much room text takes in the two encodings that offsets and columns count.

Owns the UTF-8 size in bytes and the UTF-16 size in units of a list of characters.

Does not own positions: lines and columns are built from these sizes elsewhere.
-/

set_option autoImplicit false

namespace ConceptScript.Text

/-- Bytes of the UTF-8 encoding. -/
def byteSize : List Char → Nat
  | [] => 0
  | c :: rest => c.utf8Size + byteSize rest

/-- Units of the UTF-16 encoding of one character: two for a surrogate pair. -/
def charUnits (c : Char) : Nat :=
  if c.toNat < 0x10000 then 1 else 2

/-- Units of the UTF-16 encoding. -/
def unitSize : List Char → Nat
  | [] => 0
  | c :: rest => charUnits c + unitSize rest

@[simp]
theorem byteSize_append (front back : List Char) :
    byteSize (front ++ back) = byteSize front + byteSize back := by
  induction front with
  | nil => simp [byteSize]
  | cons c rest inductionHypothesis => simp [byteSize, inductionHypothesis, Nat.add_assoc]

end ConceptScript.Text
