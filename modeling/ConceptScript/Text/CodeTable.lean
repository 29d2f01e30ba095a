import ConceptScript.Text.Hex

/-!
Contract: tables of code points.

Owns the form in which a table is written down: hexadecimal numbers with gaps between them, and a
comma between two rows.

Does not own what the numbers of a row say.
-/

set_option autoImplicit false

namespace ConceptScript.Text

/-- A table of which a part has been read. Everything is in reverse order. -/
structure TableReader where
  rows : List (List Nat)
  row : List Nat
  number? : Option Nat

namespace TableReader

def start : TableReader := ⟨[], [], none⟩

def endNumber (reader : TableReader) : TableReader :=
  { reader with row := reader.number?.toList ++ reader.row, number? := none }

def endRow (reader : TableReader) : TableReader :=
  ⟨reader.endNumber.row.reverse :: reader.rows, [], none⟩

def next (reader : TableReader) (c : Char) : TableReader :=
  match hexValue? c with
  | some digit => { reader with number? := some (reader.number?.getD 0 * 16 + digit) }
  | none => if c = ',' then reader.endRow else reader.endNumber

end TableReader

/-- The rows of a table. -/
def tableRows (text : String) : List (List Nat) :=
  (text.foldl TableReader.next .start).endRow.rows.reverse

/-- Whether a row of the table holds the character alone or is a range that holds it. -/
def inRanges (rows : List (List Nat)) (c : Char) : Bool :=
  rows.any fun
    | [code] => code = c.toNat
    | [first, last] => first ≤ c.toNat && c.toNat ≤ last
    | _ => false

/-- What follows the character in its row. -/
def rowOf? (rows : List (List Nat)) (c : Char) : Option (List Char) :=
  rows.findSome? fun
    | code :: image => if code = c.toNat then some (image.map Char.ofNat) else none
    | [] => none

end ConceptScript.Text
