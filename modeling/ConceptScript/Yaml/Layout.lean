import ConceptScript.Yaml.Char
import ConceptScript.Yaml.Token

/-!
Contract: what the reader of YAML tokens knows at a place in the text.

Owns open blocks and flow collections, and the keys that are recognized only when their colon is
found: such a key stands on one line, is not longer than 1024 bytes, and in some places has to turn
out to be a key.

Does not own the spelling of tokens.
-/

set_option autoImplicit false

namespace ConceptScript.Yaml

/-- A place where a key may have started. -/
structure SimpleKey where
  /-- At the indentation of an open block only a key can start. -/
  required : Bool
  /-- The number of tokens in front of it. -/
  number : Nat
  mark : Mark
  deriving DecidableEq, Repr

/-- The colon can no longer follow. -/
def SimpleKey.isStale (key : SimpleKey) (mark : Mark) : Bool :=
  key.mark.line < mark.line || key.mark.offset + 1024 < mark.offset

structure Layout where
  input : Input
  /-- The tokens found, last one first. -/
  tokens : List Token := []
  /-- The indentation of the open blocks, innermost first. -/
  indents : List Nat := []
  /-- The key that may have started in the innermost flow collection, or outside of all. -/
  key : Option SimpleKey := none
  /-- The keys that may have started around each open flow collection, innermost first. -/
  outerKeys : List (Option SimpleKey) := []
  /-- A key may start here. -/
  keyAllowed : Bool := true
  deriving DecidableEq, Repr

namespace Layout

def inFlow (layout : Layout) : Bool :=
  !layout.outerKeys.isEmpty

def column (layout : Layout) : Nat :=
  layout.input.mark.column

def emit (layout : Layout) (token : Token) : Layout :=
  { layout with tokens := token :: layout.tokens }

/-- Puts a token behind the given number of tokens. -/
def insert (layout : Layout) (number : Nat) (token : Token) : Layout :=
  let later := layout.tokens.length - number
  { layout with tokens := layout.tokens.take later ++ token :: layout.tokens.drop later }

/-- Emits a token that is spelled with the given number of characters. -/
def take (layout : Layout) (count : Nat) (token : Token) : Layout :=
  { layout.emit token with input := layout.input.skip count }

def allowKey (layout : Layout) (allowed : Bool) : Layout :=
  { layout with keyAllowed := allowed }

/-! ## Keys -/

/-- Gives up the key of the innermost collection. -/
def dropKey? (layout : Layout) : Option Layout :=
  if layout.key.any SimpleKey.required then none else some { layout with key := none }

/-- Gives up every key whose colon can no longer follow. -/
def dropStale? (layout : Layout) : Option Layout :=
  let mark := layout.input.mark
  let stale (key : Option SimpleKey) : Bool := key.any fun key => key.isStale mark
  let keys := layout.key :: layout.outerKeys
  if keys.any fun key => stale key && key.any SimpleKey.required then none
  else
    let fresh (key : Option SimpleKey) : Option SimpleKey := if stale key then none else key
    some { layout with key := fresh layout.key, outerKeys := layout.outerKeys.map fresh }

/-- Remembers that a key may start here. -/
def saveKey? (layout : Layout) : Option Layout :=
  if layout.keyAllowed then
    layout.dropKey?.map fun layout =>
      { layout with
        key := some
          { required := !layout.inFlow && layout.indents.head? = some layout.column
            number := layout.tokens.length
            mark := layout.input.mark } }
  else
    some layout

/-! ## Blocks -/

/-- Opens a block at a column that lies further in than the innermost block. -/
def openBlock (layout : Layout) (column number : Nat) (token : Token) : Layout :=
  if !layout.inFlow && layout.indents.head?.all fun indent => indent < column then
    { layout.insert number token with indents := column :: layout.indents }
  else
    layout

/-- Opens a block here. -/
def openBlockHere (layout : Layout) (token : Token) : Layout :=
  layout.openBlock layout.column layout.tokens.length token

/-- Closes the blocks that lie further in than a column. -/
def closeBlocks (layout : Layout) (column : Nat) : Layout :=
  if layout.inFlow then layout
  else
    let closed := layout.indents.takeWhile fun indent => column < indent
    { layout with
      tokens := closed.map (fun _ => Token.blockEnd) ++ layout.tokens
      indents := layout.indents.drop closed.length }

/-- Closes all blocks. -/
def closeAll (layout : Layout) : Layout :=
  if layout.inFlow then layout
  else
    { layout with
      tokens := layout.indents.map (fun _ => Token.blockEnd) ++ layout.tokens
      indents := [] }

/-! ## Flow collections -/

def enterFlow (layout : Layout) : Layout :=
  { layout with key := none, outerKeys := layout.key :: layout.outerKeys }

def leaveFlow (layout : Layout) : Layout :=
  match layout.outerKeys with
  | [] => layout
  | key :: outer => { layout with key := key, outerKeys := outer }

/-! ## Gaps -/

/-- Skips blanks, comments and line ends. A tab is no blank where a key may start, because it is no
indentation; a byte order mark is skipped at the start of a line. Outside of flow collections a key
may start on a new line. -/
def skipGapFrom (inFlow : Bool) :
    (keyAllowed inComment : Bool) → Mark → List Char → Bool × Input
  | keyAllowed, _, mark, [] => (keyAllowed, ⟨mark, []⟩)
  | keyAllowed, inComment, mark, c :: rest =>
    if isBreak c then skipGapFrom inFlow (keyAllowed || !inFlow) false mark.down rest
    else if inComment then skipGapFrom inFlow keyAllowed true (mark.past c) rest
    else if c = '#' then skipGapFrom inFlow keyAllowed true (mark.past c) rest
    else if c = ' ' || (c = '\t' && (inFlow || !keyAllowed)) ||
        (c = '\uFEFF' && mark.column = 0) then
      skipGapFrom inFlow keyAllowed false (mark.past c) rest
    else (keyAllowed, ⟨mark, c :: rest⟩)

def skipGap (layout : Layout) : Layout :=
  let (keyAllowed, input) :=
    skipGapFrom layout.inFlow layout.keyAllowed false layout.input.mark layout.input.chars
  { layout with keyAllowed := keyAllowed, input := input }

end Layout

end ConceptScript.Yaml
