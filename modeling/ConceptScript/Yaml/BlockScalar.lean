import ConceptScript.Yaml.Char

/-!
Contract: the values of literal and folded block scalars.

Owns the header, the indentation, folding, and what becomes of the last line ends.

Does not own plain and quoted scalars.
-/

set_option autoImplicit false

namespace ConceptScript.Yaml

/-- What becomes of the line ends behind the text: one stays, none stays, or all stay. -/
inductive Chomping where
  | clip
  | strip
  | keep
  deriving DecidableEq, Repr

structure BlockHeader where
  chomping : Chomping := .clip
  /-- The indentation relative to the enclosing block, where it is given. -/
  increment : Option Nat := none
  deriving DecidableEq, Repr

def chomping? : Char → Option Chomping
  | '+' => some .keep
  | '-' => some .strip
  | _ => none

/-- Reads the characters of a header behind its first one, in either order. A given indentation is
not zero. -/
def blockHeader? : List Char → Option (BlockHeader × Nat)
  | [] => some ({}, 0)
  | c :: rest =>
    match chomping? c with
    | some chomping =>
      match rest with
      | d :: _ =>
        if d = '0' then none
        else if d.isDigit then some (⟨chomping, some (d.toNat - 0x30)⟩, 2)
        else some (⟨chomping, none⟩, 1)
      | [] => some (⟨chomping, none⟩, 1)
    | none =>
      if c = '0' then none
      else if c.isDigit then
        match rest.head?.bind chomping? with
        | some chomping => some (⟨chomping, some (c.toNat - 0x30)⟩, 2)
        | none => some (⟨.clip, some (c.toNat - 0x30)⟩, 1)
      else
        some ({}, 0)

/-- A block scalar under construction. The lists are last character first. -/
structure BlockText where
  text : List Char := []
  /-- The end of the last line of text. -/
  lineEnd : Option Char := none
  /-- The ends of the empty lines behind it. -/
  emptyLines : List Char := []
  /-- The last line of text starts with a blank, so that it is not folded. -/
  startsBlank : Bool := false
  deriving DecidableEq, Repr

namespace BlockText

/-- Adds the line ends in front of a line whose first character is given. Folding turns a single
line feed between lines that start with text into a space. -/
def startLine (block : BlockText) (literal : Bool) (first : Char) : BlockText :=
  let folded :=
    !literal && block.lineEnd = some '\n' && !block.startsBlank && !isSpace first
  let gap :=
    if folded then
      if block.emptyLines.isEmpty then [' '] else block.emptyLines
    else
      block.emptyLines ++ block.lineEnd.toList
  { text := gap ++ block.text, startsBlank := isSpace first }

def push (block : BlockText) (c : Char) : BlockText :=
  { block with text := c :: block.text }

def value (block : BlockText) (chomping : Chomping) : String :=
  let tail :=
    match chomping with
    | .strip => []
    | .clip => block.lineEnd.toList
    | .keep => block.emptyLines ++ block.lineEnd.toList
  String.ofList (tail ++ block.text).reverse

end BlockText

/-- Reads the lines of a block scalar. While `indent` is not known, it becomes the greatest
indentation up to the first text, but at least `leastIndent`. `inLine` tells whether the place is
behind the indentation of a line. -/
def blockLines (literal : Bool) (chomping : Chomping) (leastIndent : Nat) :
    (indent : Option Nat) → (greatest : Nat) → (inLine : Bool) → BlockText → Mark → List Char →
    Option (String × Input)
  | _, _, _, block, mark, [] => some (block.value chomping, ⟨mark, []⟩)
  | indent, greatest, true, block, mark, c :: rest =>
    if isBreak c then
      blockLines literal chomping leastIndent indent greatest false
        { block with lineEnd := some c } mark.down rest
    else
      blockLines literal chomping leastIndent indent greatest true (block.push c) (mark.past c)
        rest
  | indent, greatest, false, block, mark, c :: rest =>
    let inIndent := indent.all fun indent => mark.column < indent
    let greatest := max greatest mark.column
    if inIndent && c = ' ' then
      blockLines literal chomping leastIndent indent greatest false block (mark.past c) rest
    else if inIndent && c = '\t' then none
    else if isBreak c then
      blockLines literal chomping leastIndent indent greatest false
        { block with emptyLines := c :: block.emptyLines } mark.down rest
    else
      let known := indent.getD (max greatest leastIndent)
      if mark.column = known then
        blockLines literal chomping leastIndent (some known) greatest true
          ((block.startLine literal c).push c) (mark.past c) rest
      else
        some (block.value chomping, ⟨mark, c :: rest⟩)

/-- Reads a block scalar behind its first character, inside of a block whose indentation is given,
if there is one. -/
def blockScalar? (literal : Bool) (outer : Option Nat) (input : Input) :
    Option (String × Input) := do
  let (header, size) ← blockHeader? input.chars
  let input ← (input.skip size).endLine?
  let leastIndent := max 1 (outer.elim 0 (· + 1))
  let indent := header.increment.map fun increment => outer.elim increment (· + increment)
  blockLines literal header.chomping leastIndent indent 0 false {} input.mark input.chars

end ConceptScript.Yaml
