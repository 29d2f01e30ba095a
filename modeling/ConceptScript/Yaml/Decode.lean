import ConceptScript.Yaml.Node

/-!
Contract: reading expected values from the nodes of a document.

Owns what counts as text, as a list, as a record and as no value, and how often aliases may be
followed.

Does not own which fields a record has.
-/

set_option autoImplicit false

namespace ConceptScript.Yaml

/-- A root node with the anchored nodes below it, to which aliases lead back. -/
structure Graph where
  root : Node
  anchored : List (Nat × Node)

namespace Graph

def ofNode (root : Node) : Graph :=
  ⟨root, root.anchored⟩

/-- The last node that is anchored under a number. -/
def target? (graph : Graph) (number : Nat) : Option Node :=
  graph.anchored.reverse.lookup number

/-- In all, aliases may be followed a hundred times for every mark of the document. -/
def followLimit (graph : Graph) : Nat :=
  100 * graph.root.size

end Graph

/-- Reads a value. The state is how many more aliases may be followed; `none` where the document
holds something else than expected. -/
abbrev Decode (α : Type) := StateT Nat Option α

namespace Decode

/-- The node itself or, for an alias, the node it refers to. -/
def follow (graph : Graph) : Node → Decode Node
  | .alias number => do
    match ← get with
    | 0 => failure
    | left + 1 =>
      set left
      graph.target? number
  | node => return node

/-- Whether a node is a plain scalar without text. -/
def isAbsent : Node → Bool
  | .scalar _ plain value => plain && value.isEmpty
  | _ => false

/-- The words for no value. -/
def isNullWord (value : String) : Bool :=
  value = "null" || value = "Null" || value = "NULL" || value = "~"

/-- Every scalar is text, just as it is written. -/
def text (graph : Graph) (node : Node) : Decode String := do
  match ← follow graph node with
  | .scalar _ _ value => return value
  | _ => failure

/-- The items of a sequence. A plain scalar without text is an empty list. -/
def items (graph : Graph) (node : Node) : Decode (List Node) := do
  match ← follow graph node with
  | .sequence _ items => return items
  | other => if isAbsent other then return [] else failure

def list {α : Type} (graph : Graph) (decode : Node → Decode α) (node : Node) :
    Decode (List α) := do
  (← items graph node).mapM decode

/-- The fields of a mapping, whose keys are text. A plain scalar without text has no fields. -/
def fields (graph : Graph) (node : Node) : Decode (List (String × Node)) := do
  match ← follow graph node with
  | .mapping _ entries => entries.mapM fun entry => do return (← text graph entry.1, entry.2)
  | other => if isAbsent other then return [] else failure

/-- The value of a field that may be missing but not repeated. -/
def field? (fields : List (String × Node)) (name : String) : Decode (Option Node) :=
  match fields.filter fun field => field.1 == name with
  | [] => return none
  | [(_, node)] => return some node
  | _ => failure

def fieldOr {α : Type} (fields : List (String × Node)) (name : String) (fallback : α)
    (decode : Node → Decode α) : Decode α := do
  match ← field? fields name with
  | some node => decode node
  | none => return fallback

def nullTag : TagText :=
  bytesOf "tag:yaml.org,2002:null".toList

/-- No value is a plain scalar without tag that is empty or a word for no value. With a tag other
than that of null every scalar is a value. -/
def optional {α : Type} (graph : Graph) (decode : Node → Decode α) (node : Node) :
    Decode (Option α) := do
  let node ← follow graph node
  match node with
  | .scalar properties true value =>
    match properties.tag with
    | none => if value.isEmpty || isNullWord value then return none else return some (← decode node)
    | some tag =>
      if tag = nullTag then
        if isNullWord value then return none else failure
      else
        return some (← decode node)
  | _ => return some (← decode node)

/-- The name in a tag that is local to the document. -/
def localName? (tag : TagText) : Option String :=
  match tag with
  | mark :: name => if mark = '!'.toNat.toUInt8 then String.fromUTF8? ⟨name.toArray⟩ else none
  | [] => none

/-- The name of a choice, which is a scalar, or a local tag without a value. -/
def choice (graph : Graph) (node : Node) : Decode String := do
  match ← follow graph node with
  | .scalar properties plain value =>
    match properties.tag.bind localName? with
    | none => return value
    | some name =>
      if plain && (value.isEmpty || isNullWord value) then return name else failure
  | _ => failure

/-- Reads a whole document. -/
def run {α : Type} (decode : Graph → Node → Decode α) (root : Node) : Option α :=
  let graph := Graph.ofNode root
  (StateT.run (decode graph root) graph.followLimit).map Prod.fst

end Decode

end ConceptScript.Yaml
