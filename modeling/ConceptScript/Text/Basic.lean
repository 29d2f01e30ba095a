import ConceptScript.Text.Count
import ConceptScript.Text.Position
import ConceptScript.Text.Size

/-!
Contract: a text with its lines, byte offsets and positions.

Owns the two maps between offsets and positions, which clamp what lies outside of the text, the
conversion of columns to UTF-16 units and back, and the cut behind the line of an offset.

Does not own tokens.
-/

set_option autoImplicit false

namespace ConceptScript

structure Text where
  chars : List Char
  deriving DecidableEq, Repr

namespace Text

def ofString (content : String) : Text :=
  ⟨content.toList⟩

def content (text : Text) : String :=
  String.ofList text.chars

/-- Length in bytes. -/
def length (text : Text) : Nat :=
  byteSize text.chars

def isEmpty (text : Text) : Bool :=
  text.chars.isEmpty

/-! ## Lines -/

/-- The pieces between line feeds; there is one more piece than line feeds. -/
def splitLines : List Char → List (List Char)
  | [] => [[]]
  | c :: rest =>
    if c = '\n' then
      [] :: splitLines rest
    else
      match splitLines rest with
      | line :: later => (c :: line) :: later
      | [] => [[c]]

def lines (text : Text) : List (List Char) :=
  splitLines text.chars

def line? (text : Text) (line : Nat) : Option (List Char) :=
  text.lines[line]?

/-- The characters of a line; a line that does not exist has none. -/
def lineChars (text : Text) (line : Nat) : List Char :=
  (text.line? line).getD []

/-! ## Offsets and positions -/

/-- Bytes in front of a line and column, counted from the start of the characters. Without enough
lines these are all bytes, and without enough columns those up to the end of the line. -/
def bytesBefore : (line column : Nat) → List Char → Nat
  | _, _, [] => 0
  | 0, 0, _ :: _ => 0
  | 0, column + 1, c :: rest =>
    if c = '\n' then 0 else c.utf8Size + bytesBefore 0 column rest
  | line + 1, column, c :: rest =>
    c.utf8Size + bytesBefore (if c = '\n' then line else line + 1) column rest

/-- Where an offset lies, given the position of the first character. An offset inside of a
character counts as the start of that character, and one behind the text as its end. -/
def positionAfter : (here : Position) → (offset : Nat) → List Char → Position
  | here, _, [] => here
  | here, offset, c :: rest =>
    if offset < c.utf8Size then here
    else positionAfter (here.after c) (offset - c.utf8Size) rest

def offsetOf (text : Text) (position : Position) : Nat :=
  bytesBefore position.line position.column text.chars

def positionOf (text : Text) (offset : Nat) : Position :=
  positionAfter .zero offset text.chars

/-! ## Columns in UTF-16 units -/

/-- The first column with at least the given number of units in front of it. Behind the end of the
line every column is one unit wide. -/
def columnOfUnits : (units : Nat) → List Char → Nat
  | units, [] => units
  | 0, _ :: _ => 0
  | units + 1, c :: rest => columnOfUnits (units + 1 - charUnits c) rest + 1

/-- The units in front of a column. Behind the end of the line every column is one unit wide. -/
def unitsOfColumn : (column : Nat) → List Char → Nat
  | column, [] => column
  | 0, _ :: _ => 0
  | column + 1, c :: rest => charUnits c + unitsOfColumn column rest

/-- The position whose column is given in UTF-16 units. -/
def ofUtf16 (text : Text) (position : Position) : Position :=
  ⟨position.line, columnOfUnits position.column (text.lineChars position.line)⟩

/-- The same position with its column in UTF-16 units. The units of the characters on a line can
always be counted. Behind the end of the line a column may lie so far that the units in front of it
are no count any more; what is given then is the remainder that fits. -/
def toUtf16 (text : Text) (position : Position) : Position :=
  let line := text.lineChars position.line
  let units := unitsOfColumn position.column line
  ⟨position.line, if position.column ≤ line.length then units else units % Count.limit⟩

/-! ## Cutting and showing -/

/-- The characters up to and including the first line feed. -/
def throughLineFeed : List Char → List Char
  | [] => []
  | c :: rest => if c = '\n' then [c] else c :: throughLineFeed rest

/-- The characters up to and including the first line feed at or after an offset; an offset inside
of a character counts as the start of that character. -/
def throughLineOf : (offset : Nat) → List Char → List Char
  | _, [] => []
  | offset, c :: rest =>
    if offset < c.utf8Size then throughLineFeed (c :: rest)
    else c :: throughLineOf (offset - c.utf8Size) rest

/-- The text without what follows the line of the offset. -/
def cutAfterLine (text : Text) (offset : Nat) : Text :=
  ⟨throughLineOf offset text.chars⟩

/-- The line of a position with a caret under its column. -/
def pointTo (text : Text) (position : Position) : String :=
  let shown := ((text.lineChars position.line).reverse.dropWhile (· = '\r')).reverse
  String.ofList (shown ++ '\n' :: (List.replicate position.column ' ' ++ ['^']))

end Text

end ConceptScript
