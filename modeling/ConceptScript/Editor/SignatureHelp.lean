import ConceptScript.Editor.Hover

/-!
Contract: the signatures of the concept that is being written at a position.

Owns the order of signatures that share a keyword, the member that is written next, and where each
member stands in the text of a signature.

Does not own how an editor shows them.
-/

set_option autoImplicit false

namespace ConceptScript

/-- The types whose signatures are shown, best one first. Where a concept at the position fits one
of them, `activeSignature` is the number of that signature, and `activeMember` the member of it that
is written next. -/
structure SignatureHelp where
  signatures : List ConceptType
  activeSignature : Option Nat
  activeMember : Option Nat
  deriving DecidableEq, Repr

namespace SignatureHelp

/-- A type that the concept at the position may have, with the member that is written next. -/
structure Candidate where
  type : ConceptType
  active : Nat
  deriving DecidableEq, Repr

namespace Candidate

/-- All members are written already. -/
def isFull (candidate : Candidate) : Bool :=
  candidate.type.members.length ≤ candidate.active

/-- Types with a member left to write come first, then those with fewer members, then by name. -/
def precedes (left right : Candidate) : Bool :=
  if left.isFull = right.isFull then
    if left.type.members.length = right.type.members.length then
      !decide (right.type.name < left.type.name)
    else
      left.type.members.length < right.type.members.length
  else
    right.isFull

end Candidate

/-- The candidates among the types of the keyword, best one first. -/
def candidates (types : List ConceptType) (cursor : Cursor) : List Candidate :=
  let found := cursor.candidates.filterMap fun concept =>
    (types.find? fun type => type.name == concept.typeName).map fun type =>
      { type := type, active := cursor.activeMember concept }
  found.mergeSort Candidate.precedes

def ofCursor (types : List ConceptType) (cursor : Cursor) : SignatureHelp :=
  match candidates types cursor with
  | [] => ⟨types, none, none⟩
  | first :: others =>
    let ranked := (first :: others).map Candidate.type
    let remaining := types.filter fun type => !ranked.any fun other => other.name == type.name
    ⟨ranked ++ remaining, some 0, some first.active⟩

/-! ## Members in the text of a signature -/

/-- Where a member stands in the text of its signature, in UTF-16 units, or its label. Editors take
numbers of 32 bits. -/
inductive Label where
  | span (start stop : UInt32)
  | text (label : String)
  deriving DecidableEq, Repr

/-- The first place of a label in the characters, given the units in front of them: the units in
front of the place, and the characters behind the label. -/
def locate (label : List Char) : (units : Nat) → List Char → Option (Nat × List Char)
  | units, [] => if label.isEmpty then some (units, []) else none
  | units, c :: rest =>
    if label.isPrefixOf (c :: rest) then some (units, (c :: rest).drop label.length)
    else locate label (units + Text.charUnits c) rest

/-- The places of all members. Each is looked for behind the one before it. Only what is sent is cut
to 32 bits; the search goes on with the whole number of units. -/
def labels : (units : Nat) → List Char → List Member → List Label
  | _, _, [] => []
  | units, chars, member :: later =>
    let label := member.label.toList
    match locate label units chars with
    | some (start, rest) =>
      let size := Text.unitSize label
      .span (.ofNat start) (.ofNat start + .ofNat size) :: labels (start + size) rest later
    | none => .text member.label :: labels units chars later

def labelsOf (type : ConceptType) : List Label :=
  labels 0 type.signature.toList type.members

end SignatureHelp

def Analysis.signatureHelp? (catalog : Catalog) (analysis : Analysis) (position : Position) :
    Option SignatureHelp :=
  (analysis.helpKeyword? position).map fun keyword =>
    .ofCursor (catalog.typesFor keyword.value) analysis.cursor

def Document.signatureHelp? (context : Context) (document : Document) (position : Position) :
    Option SignatureHelp × Document :=
  match context.catalog with
  | none => (none, document)
  | some catalog =>
    let (analysis, document) := document.analyse context (some position)
    (analysis.signatureHelp? catalog position, document)

/-- The help at a position whose column counts UTF-16 units. -/
def Document.signatureHelpAt? (context : Context) (document : Document) (position : Position) :
    Option SignatureHelp × Document :=
  document.signatureHelp? context (document.text.ofUtf16 position)

end ConceptScript
