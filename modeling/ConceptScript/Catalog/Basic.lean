import ConceptScript.Concept
import ConceptScript.Text.Alphanumeric

/-!
Contract: a catalog is an ordered list of concept types that agree with each other.

Owns the defects a list of types can have, which of several is reported, and the questions asked of
a catalog by name, keyword and parent.

Does not own reading catalogs from files.
-/

set_option autoImplicit false

namespace ConceptScript

/-- Why a list of types is no catalog. -/
inductive Catalog.Defect where
  | duplicateType (name : String)
  | unknownParent (concept parent : String)
  | invalidKeyword (concept keyword : String)
  | duplicateMember (concept member : String)
  deriving DecidableEq, Repr

def Catalog.Defect.message : Catalog.Defect → String
  | .duplicateType name => "duplicate concept type '" ++ name ++ "'"
  | .unknownParent concept parent =>
    "concept type '" ++ concept ++ "' lists unknown parent type '" ++ parent ++ "'"
  | .invalidKeyword concept keyword =>
    "concept type '" ++ concept ++ "' has invalid keyword '" ++ keyword ++ "'"
  | .duplicateMember concept member =>
    "concept type '" ++ concept ++ "' declares member '" ++ member ++ "' twice"

namespace Catalog

/-- The first name that repeats a name in front of it or one already seen. -/
def firstRepeat (seen : List String) : List String → Option String
  | [] => none
  | name :: later => if name ∈ seen then some name else firstRepeat (name :: seen) later

/-- A keyword is a name, so that it is one token wherever it is written. -/
def isKeyword (keyword : String) : Bool :=
  !keyword.isEmpty && keyword.toList.all fun c => Text.isAlphanumeric c || c = '_'

/-- The first defect of a type among types of the given names: of its parents, then of its
keyword, then of its members. -/
def typeDefect? (names : List String) (type : ConceptType) : Option Defect :=
  match type.parents.find? fun parent => !names.contains parent with
  | some parent => some (.unknownParent type.name parent)
  | none =>
    match type.keyword.filter fun keyword => !isKeyword keyword with
    | some keyword => some (.invalidKeyword type.name keyword)
    | none => (firstRepeat [] (type.members.map Member.name)).map (.duplicateMember type.name)

/-- The first defect of a list of types. A repeated type name comes before all else. -/
def defect? (types : List ConceptType) : Option Defect :=
  let names := types.map ConceptType.name
  match firstRepeat [] names with
  | some name => some (.duplicateType name)
  | none => types.findSome? (typeDefect? names)

end Catalog

/-- Concept types without defect, in the order in which they are tried and listed. -/
structure Catalog where
  types : List ConceptType
  sound : Catalog.defect? types = none

namespace Catalog

def ofTypes (types : List ConceptType) : Except Defect Catalog :=
  match sound : defect? types with
  | none => .ok ⟨types, sound⟩
  | some defect => .error defect

def empty : Catalog :=
  ⟨[], rfl⟩

def find? (catalog : Catalog) (name : String) : Option ConceptType :=
  catalog.types.find? fun type => type.name == name

/-- The types that a keyword introduces. -/
def typesFor (catalog : Catalog) (keyword : String) : List ConceptType :=
  catalog.types.filter fun type => type.matchesKeyword keyword

/-- The types that may stand directly inside of a parent; all types where there is none. -/
def childTypes (catalog : Catalog) : Option String → List ConceptType
  | none => catalog.types
  | some parent => catalog.types.filter fun type => type.allowedIn parent

def membersOf (catalog : Catalog) (name : String) : List Member :=
  (catalog.find? name).elim [] ConceptType.members

def keywordOf? (catalog : Catalog) (name : String) : Option String :=
  (catalog.find? name).bind ConceptType.keyword

/-- The signature in a code block, with the description under it if there is one. -/
def documentation (type : ConceptType) : String :=
  let block := "```\n" ++ type.signature ++ "\n```"
  if type.description.isEmpty then block else block ++ "\n" ++ type.description

/-- The documentation of all types that a keyword introduces. -/
def documentationFor (catalog : Catalog) (keyword : String) : String :=
  "\n\n".intercalate ((catalog.typesFor keyword).map documentation)

end Catalog

end ConceptScript
