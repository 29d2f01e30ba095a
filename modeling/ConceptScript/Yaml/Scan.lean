import ConceptScript.Yaml.BlockScalar
import ConceptScript.Yaml.FlowScalar
import ConceptScript.Yaml.Tag

/-!
Contract: all tokens of a YAML text.

Owns which token starts with which character in which place, and the end of the text.

Does not own the grammar of nodes.
-/

set_option autoImplicit false

namespace ConceptScript.Yaml

namespace Layout

/-! ## The tokens -/

/-- A directive or a mark between documents ends all blocks. -/
def endBlocks? (layout : Layout) : Option Layout :=
  layout.closeAll.dropKey?.map fun layout => layout.allowKey false

def directive? (layout : Layout) : Option Layout := do
  let layout ← layout.endBlocks?
  let (token, input) ← Yaml.directive? (layout.input.skip 1)
  some { layout.emit token with input := input }

def documentMark? (layout : Layout) (token : Token) : Option Layout :=
  layout.endBlocks?.map fun layout => layout.take 3 token

def flowStart? (layout : Layout) (token : Token) : Option Layout :=
  layout.saveKey?.map fun layout => (layout.enterFlow.allowKey true).take 1 token

def flowEnd? (layout : Layout) (token : Token) : Option Layout :=
  layout.dropKey?.map fun layout => (layout.leaveFlow.allowKey false).take 1 token

def flowEntry? (layout : Layout) : Option Layout :=
  layout.dropKey?.map fun layout => (layout.allowKey true).take 1 .flowEntry

/-- A dash starts an item of a block sequence, which it opens if need be. -/
def blockEntry? (layout : Layout) : Option Layout :=
  if !layout.inFlow && !layout.keyAllowed then none
  else
    (layout.openBlockHere .blockSequenceStart).dropKey?.map fun layout =>
      (layout.allowKey true).take 1 .blockEntry

/-- A question mark starts a key that may have any form. -/
def key? (layout : Layout) : Option Layout :=
  if !layout.inFlow && !layout.keyAllowed then none
  else
    (layout.openBlockHere .blockMappingStart).dropKey?.map fun layout =>
      (layout.allowKey (!layout.inFlow)).take 1 .key

/-- A colon ends a key: the one that may have started before it on the line, which is now marked,
or one that was started by a question mark. -/
def value? (layout : Layout) : Option Layout :=
  match layout.key with
  | some key =>
    let layout := layout.insert key.number .key
    let layout := layout.openBlock key.mark.column key.number .blockMappingStart
    some (({ layout with key := none }.allowKey false).take 1 .value)
  | none =>
    if !layout.inFlow && !layout.keyAllowed then none
    else
      let layout := layout.openBlockHere .blockMappingStart
      some ((layout.allowKey (!layout.inFlow)).take 1 .value)

/-- A token that a key may start with. -/
def content? (layout : Layout) (read : Input → Option (Token × Input)) : Option Layout := do
  let layout ← layout.saveKey?
  let (token, input) ← read layout.input
  some { (layout.allowKey false).emit token with input := input }

def anchorOrAlias? (layout : Layout) (token : List Char → Token) : Option Layout :=
  layout.content? fun input =>
    (anchorName? (input.skip 1)).map fun (name, input) => (token name, input)

def quoted? (layout : Layout) (read : Mark → List Char → Option (String × Input)) :
    Option Layout :=
  layout.content? fun input =>
    let behind := input.skip 1
    (read behind.mark behind.chars).map fun (value, input) => (.scalar false value, input)

def blockScalar? (layout : Layout) (literal : Bool) : Option Layout := do
  let layout ← layout.dropKey?
  let (value, input) ← Yaml.blockScalar? literal layout.indents.head? (layout.input.skip 1)
  some { (layout.allowKey true).emit (.scalar false value) with input := input }

/-- Behind a plain scalar whose line has ended a key may start. -/
def plain? (layout : Layout) : Option Layout := do
  let layout ← layout.saveKey?
  let indent := layout.indents.head?.elim 0 (· + 1)
  let scalar ← plainScalar layout.inFlow indent {} layout.input.mark layout.input.chars
  some { (layout.allowKey scalar.broken).emit (.scalar true scalar.value) with
    input := scalar.input }

/-! ## Choice by the first characters -/

/-- The marks that no plain scalar starts with. -/
def isIndicator (c : Char) : Bool :=
  "-?:,[]\x7b\x7d#&*!|>'\"%@`".toList.contains c

/-- Whether a plain scalar starts with a character. A dash, and outside of flow collections a
question mark or colon, starts one if text follows directly. -/
def startsPlain (layout : Layout) (c : Char) (rest : List Char) : Bool :=
  !(isSpace c || isBreak c || isIndicator c) ||
    (c = '-' && !rest.head?.any isSpace) ||
    (!layout.inFlow && (c = '?' || c = ':') && !atGap rest)

/-- Reads the token that starts with a character. -/
def token? (layout : Layout) (c : Char) (rest : List Char) : Option Layout :=
  if layout.column = 0 && c = '%' then layout.directive?
  else if layout.column = 0 && atDocumentMark (c :: rest) then
    layout.documentMark? (if c = '-' then .documentStart else .documentEnd)
  else if c = '[' then layout.flowStart? .flowSequenceStart
  else if c = '\x7b' then layout.flowStart? .flowMappingStart
  else if c = ']' then layout.flowEnd? .flowSequenceEnd
  else if c = '\x7d' then layout.flowEnd? .flowMappingEnd
  else if c = ',' then layout.flowEntry?
  else if c = '-' && atGap rest then layout.blockEntry?
  else if c = '?' && (layout.inFlow || atGap rest) then layout.key?
  else if c = ':' && (layout.inFlow || atGap rest) then layout.value?
  else if c = '*' then layout.anchorOrAlias? .alias
  else if c = '&' then layout.anchorOrAlias? .anchor
  else if c = '!' then layout.content? (tag? layout.inFlow)
  else if c = '|' && !layout.inFlow then layout.blockScalar? true
  else if c = '>' && !layout.inFlow then layout.blockScalar? false
  else if c = '\'' then layout.quoted? (singleQuoted {})
  else if c = '"' then layout.quoted? (doubleQuoted .outside {})
  else if layout.startsPlain c rest then layout.plain?
  else none

/-- The tokens of the whole text. Every round takes at least one character, so one round more than
there are characters is enough. -/
def tokens? : (rounds : Nat) → Layout → Option (List Token)
  | 0, _ => none
  | rounds + 1, layout =>
    match layout.skipGap.dropStale? with
    | none => none
    | some layout =>
      let layout := layout.closeBlocks layout.column
      match layout.input.chars with
      | [] => layout.closeAll.dropKey?.map fun layout => layout.tokens.reverse
      | c :: rest =>
        match layout.token? c rest with
        | none => none
        | some layout => tokens? rounds layout

end Layout

/-- The tokens of a text; `none` if it cannot be divided into tokens. -/
def scan? (text : List Char) : Option (List Token) :=
  if text.all isAllowed then
    let chars := normalizeBreaks text
    Layout.tokens? (chars.length + 1) { input := ⟨{}, chars⟩ }
  else
    none

end ConceptScript.Yaml
