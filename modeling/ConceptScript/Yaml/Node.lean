import ConceptScript.Yaml.Scan

/-!
Contract: the nodes of a YAML document.

Owns the grammar of documents and nodes over tokens, the expansion of tags, and the numbers by
which aliases refer to anchored nodes.

Does not own what values a program expects.
-/

set_option autoImplicit false

namespace ConceptScript.Yaml

/-- What may be noted at a node: the number of its anchor and its tag. -/
structure Properties where
  anchor : Option Nat := none
  tag : Option TagText := none
  deriving DecidableEq, Repr

inductive Node where
  /-- Refers to the anchored node with a number. -/
  | alias (number : Nat)
  | scalar (properties : Properties) (plain : Bool) (value : String)
  | sequence (properties : Properties) (items : List Node)
  | mapping (properties : Properties) (entries : List (Node × Node))
  deriving Repr

namespace Node

/-- A node that is not written. -/
def absent (properties : Properties) : Node :=
  .scalar properties true ""

/-! ## Numbers of nodes -/

mutual

/-- How many marks a node consists of: one for a scalar or alias, and two around the content of a
collection. -/
def size : Node → Nat
  | .alias _ => 1
  | .scalar _ _ _ => 1
  | .sequence _ items => 2 + sizeItems items
  | .mapping _ entries => 2 + sizeEntries entries

def sizeItems : List Node → Nat
  | [] => 0
  | item :: later => size item + sizeItems later

def sizeEntries : List (Node × Node) → Nat
  | [] => 0
  | (key, value) :: later => size key + size value + sizeEntries later

end

mutual

/-- The anchored nodes with their numbers, in the order in which they start. -/
def anchored : Node → List (Nat × Node)
  | .alias _ => []
  | .scalar properties plain value =>
    (properties.anchor.map fun number => (number, .scalar properties plain value)).toList
  | .sequence properties items =>
    (properties.anchor.map fun number => (number, .sequence properties items)).toList ++
      anchoredItems items
  | .mapping properties entries =>
    (properties.anchor.map fun number => (number, .mapping properties entries)).toList ++
      anchoredEntries entries

def anchoredItems : List Node → List (Nat × Node)
  | [] => []
  | item :: later => anchored item ++ anchoredItems later

def anchoredEntries : List (Node × Node) → List (Nat × Node)
  | [] => []
  | (key, value) :: later => anchored key ++ anchored value ++ anchoredEntries later

end

/-! ## Reading nodes -/

/-- The number of each name that has been anchored. -/
abbrev Names := List (String × Nat)

/-- Anchors a name under the number of names known before. A name that is anchored again gets a new
number. -/
def Names.anchor (names : Names) (name : String) : Nat × Names :=
  let number := names.length
  let entry := (name, number)
  if names.any fun known => known.1 == name then
    (number, names.map fun known => if known.1 == name then entry else known)
  else
    (number, names ++ [entry])

/-- The expansion of each tag handle. -/
abbrev Handles := List (List Char × TagText)

def defaultHandles : Handles :=
  [(['!'], bytesOf ['!']), (['!', '!'], bytesOf "tag:yaml.org,2002:".toList)]

/-- What is read from the front of the tokens, with the names anchored on the way. -/
abbrev Reading (α : Type) := Option (α × Names × List Token)

def expandTag? (handles : Handles) (handle : List Char) (suffix : TagText) : Option TagText :=
  if handle.isEmpty then some suffix
  else (handles.lookup handle).map fun expansion => expansion ++ suffix

/-- The anchor and the tag in front of a node, in either order. -/
def properties? (handles : Handles) (names : Names) (tokens : List Token) :
    Reading Properties :=
  let anchored (name : List Char) (tag : Option TagText) (tokens : List Token) :
      Reading Properties :=
    let (number, names) := Names.anchor names (String.ofList name)
    some (⟨some number, tag⟩, names, tokens)
  match tokens with
  | .anchor name :: .tag handle suffix :: rest =>
    (expandTag? handles handle suffix).bind fun tag => anchored name (some tag) rest
  | .tag handle suffix :: .anchor name :: rest =>
    (expandTag? handles handle suffix).bind fun tag => anchored name (some tag) rest
  | .anchor name :: rest => anchored name none rest
  | .tag handle suffix :: rest =>
    (expandTag? handles handle suffix).map fun tag => (⟨none, some tag⟩, names, rest)
  | rest => some ({}, names, rest)

/-- Whether a value inside of a block is left out in front of these tokens. -/
def endsBlockValue : List Token → Bool
  | .key :: _ => true
  | .value :: _ => true
  | .blockEnd :: _ => true
  | _ => false

/-- Whether an item of a block sequence is left out in front of these tokens. -/
def endsBlockItem : List Token → Bool
  | .blockEntry :: _ => true
  | .blockEnd :: _ => true
  | _ => false

/-- Whether a value inside of a flow collection is left out in front of these tokens. -/
def endsFlowValue (close : Token) : List Token → Bool
  | .flowEntry :: _ => true
  | token :: _ => token = close
  | [] => false

/-- Whether a key inside of a flow collection is left out in front of these tokens. -/
def endsFlowKey (close : Token) (tokens : List Token) : Bool :=
  tokens.head? = some .value || endsFlowValue close tokens

mutual

/-- Reads a node. Block collections stand only in blocks, and a sequence without indentation of its
own only as a key or value of a block mapping. -/
def readNode (handles : Handles) :
    (rounds : Nat) → (inBlock indentless : Bool) → Names → List Token → Reading Node
  | 0, _, _, _, _ => none
  | _, _, _, names, .alias name :: rest =>
    (names.lookup (String.ofList name)).map fun number => (.alias number, names, rest)
  | rounds + 1, inBlock, indentless, names, tokens =>
    match properties? handles names tokens with
    | none => none
    | some (properties, names, rest) =>
      match rest with
      | .blockEntry :: _ =>
        if indentless then
          (readIndentless handles rounds names rest).map fun (items, state) =>
            (.sequence properties items, state)
        else unwritten properties names rest
      | .scalar plain value :: rest => some (.scalar properties plain value, names, rest)
      | .flowSequenceStart :: rest =>
        (readFlowItems handles rounds true names rest).map fun (items, state) =>
          (.sequence properties items, state)
      | .flowMappingStart :: rest =>
        (readFlowEntries handles rounds true names rest).map fun (entries, state) =>
          (.mapping properties entries, state)
      | .blockSequenceStart :: behind =>
        if inBlock then
          (readBlockItems handles rounds names behind).map fun (items, state) =>
            (.sequence properties items, state)
        else unwritten properties names rest
      | .blockMappingStart :: behind =>
        if inBlock then
          (readBlockEntries handles rounds names behind).map fun (entries, state) =>
            (.mapping properties entries, state)
        else unwritten properties names rest
      | _ => unwritten properties names rest
where
  /-- A node of which only an anchor or a tag is written. -/
  unwritten (properties : Properties) (names : Names) (rest : List Token) : Reading Node :=
    if properties = {} then none else some (absent properties, names, rest)

def readBlockItems (handles : Handles) :
    (rounds : Nat) → Names → List Token → Reading (List Node)
  | 0, _, _ => none
  | rounds + 1, names, .blockEntry :: rest =>
    let item :=
      if endsBlockItem rest then some (absent {}, names, rest)
      else readNode handles rounds true false names rest
    match item with
    | none => none
    | some (item, names, rest) =>
      (readBlockItems handles rounds names rest).map fun (items, state) => (item :: items, state)
  | _, names, .blockEnd :: rest => some ([], names, rest)
  | _, _, _ => none

def readIndentless (handles : Handles) :
    (rounds : Nat) → Names → List Token → Reading (List Node)
  | 0, _, _ => none
  | rounds + 1, names, .blockEntry :: rest =>
    let item :=
      if endsBlockItem rest || endsBlockValue rest then some (absent {}, names, rest)
      else readNode handles rounds true false names rest
    match item with
    | none => none
    | some (item, names, rest) =>
      (readIndentless handles rounds names rest).map fun (items, state) => (item :: items, state)
  | _, names, rest => some ([], names, rest)

def readBlockEntries (handles : Handles) :
    (rounds : Nat) → Names → List Token → Reading (List (Node × Node))
  | 0, _, _ => none
  | rounds + 1, names, .key :: rest =>
    let key :=
      if endsBlockValue rest then some (absent {}, names, rest)
      else readNode handles rounds true true names rest
    match key with
    | none => none
    | some (key, names, rest) =>
      let value :=
        match rest with
        | .value :: rest =>
          if endsBlockValue rest then some (absent {}, names, rest)
          else readNode handles rounds true true names rest
        | rest => some (absent {}, names, rest)
      match value with
      | none => none
      | some (value, names, rest) =>
        (readBlockEntries handles rounds names rest).map fun (entries, state) =>
          ((key, value) :: entries, state)
  | _, names, .blockEnd :: rest => some ([], names, rest)
  | _, _, _ => none

/-- Reads the items of a flow sequence; a key starts a mapping of one entry. -/
def readFlowItems (handles : Handles) :
    (rounds : Nat) → (first : Bool) → Names → List Token → Reading (List Node)
  | 0, _, _, _ => none
  | _, _, names, .flowSequenceEnd :: rest => some ([], names, rest)
  | rounds + 1, first, names, tokens =>
    let tokens? :=
      match first, tokens with
      | true, tokens => some tokens
      | false, .flowEntry :: rest => some rest
      | false, _ => none
    match tokens? with
    | none => none
    | some (.flowSequenceEnd :: rest) => some ([], names, rest)
    | some tokens =>
      let item :=
        match tokens with
        | .key :: rest =>
          (readFlowPair handles rounds names rest).map fun (entry, state) =>
            (Node.mapping {} [entry], state)
        | tokens => readNode handles rounds false false names tokens
      match item with
      | none => none
      | some (item, names, rest) =>
        (readFlowItems handles rounds false names rest).map fun (items, state) =>
          (item :: items, state)

/-- Reads the only entry of a mapping that is an item of a flow sequence. A key that is left out
takes the token behind it along. -/
def readFlowPair (handles : Handles) :
    (rounds : Nat) → Names → List Token → Reading (Node × Node)
  | 0, _, _ => none
  | rounds + 1, names, tokens =>
    let key :=
      if endsFlowKey .flowSequenceEnd tokens then some (absent {}, names, tokens.drop 1)
      else readNode handles rounds false false names tokens
    match key with
    | none => none
    | some (key, names, rest) =>
      let value :=
        match rest with
        | .value :: rest =>
          if endsFlowValue .flowSequenceEnd rest then some (absent {}, names, rest)
          else readNode handles rounds false false names rest
        | rest => some (absent {}, names, rest)
      value.map fun (value, state) => ((key, value), state)

def readFlowEntries (handles : Handles) :
    (rounds : Nat) → (first : Bool) → Names → List Token → Reading (List (Node × Node))
  | 0, _, _, _ => none
  | _, _, names, .flowMappingEnd :: rest => some ([], names, rest)
  | rounds + 1, first, names, tokens =>
    let tokens? :=
      match first, tokens with
      | true, tokens => some tokens
      | false, .flowEntry :: rest => some rest
      | false, _ => none
    match tokens? with
    | none => none
    | some (.flowMappingEnd :: rest) => some ([], names, rest)
    | some tokens =>
      let entry :=
        match tokens with
        | .key :: rest =>
          let key :=
            if endsFlowKey .flowMappingEnd rest then some (absent {}, names, rest)
            else readNode handles rounds false false names rest
          match key with
          | none => none
          | some (key, names, rest) =>
            let value :=
              match rest with
              | .value :: rest =>
                if endsFlowValue .flowMappingEnd rest then some (absent {}, names, rest)
                else readNode handles rounds false false names rest
              | rest => some (absent {}, names, rest)
            value.map fun (value, state) => ((key, value), state)
        | tokens =>
          (readNode handles rounds false false names tokens).map fun (key, state) =>
            ((key, absent {}), state)
      match entry with
      | none => none
      | some (entry, names, rest) =>
        (readFlowEntries handles rounds false names rest).map fun (entries, state) =>
          (entry :: entries, state)

end

end Node

/-! ## Documents -/

/-- The directives in front of a document and the tokens behind them. A version is given at most
once and is 1.1 or 1.2; a handle is defined at most once. -/
def readDirectives (versioned : Bool) (handles : Node.Handles) :
    List Token → Option (Node.Handles × List Token)
  | .versionDirective major minor :: rest =>
    if versioned || major ≠ 1 || (minor ≠ 1 && minor ≠ 2) then none
    else readDirectives true handles rest
  | .tagDirective handle expansion :: rest =>
    if handles.any fun known => known.1 == handle then none
    else readDirectives versioned (handles ++ [(handle, expansion)]) rest
  | rest => some (handles, rest)

/-- Whether an explicitly started document has no content in front of these tokens. -/
def endsDocument : List Token → Bool
  | [] => true
  | .documentStart :: _ => true
  | .documentEnd :: _ => true
  | .versionDirective _ _ :: _ => true
  | .tagDirective _ _ :: _ => true
  | _ => false

/-- Nothing but marks of the end of a document may follow the only document. -/
def onlyEnds (tokens : List Token) : Bool :=
  tokens.all fun token => token = .documentEnd

/-- Reads a node that is followed by nothing else. Between two tokens at most three rounds are
needed. -/
def readContent (handles : Node.Handles) (tokens : List Token) : Option Node :=
  match Node.readNode handles (3 * tokens.length + 3) true false [] tokens with
  | some (node, _, rest) => if onlyEnds rest then some node else none
  | none => none

/-- The node of a text with at most one document; a text without any has an absent node. `none` if
the text is malformed. -/
def parse? (text : List Char) : Option Node := do
  match ← scan? text with
  | [] => some (.absent {})
  | tokens@(.versionDirective _ _ :: _) => explicit tokens
  | tokens@(.tagDirective _ _ :: _) => explicit tokens
  | tokens@(.documentStart :: _) => explicit tokens
  | tokens => readContent Node.defaultHandles tokens
where
  /-- A document with directives or a mark at its start. -/
  explicit (tokens : List Token) : Option Node := do
    let (handles, rest) ← readDirectives false [] tokens
    let handles := handles ++ Node.defaultHandles
    match rest with
    | .documentStart :: rest =>
      if endsDocument rest then
        if onlyEnds rest then some (.absent {}) else none
      else
        readContent handles rest
    | _ => none

end ConceptScript.Yaml
