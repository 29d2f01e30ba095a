/-!
Contract: concept types and their occurrences in a script.

Owns members, types and occurrences, how they are shown, and the two questions the grammar asks of
a type: does this keyword introduce it, and may it stand inside of that parent.

Does not own the agreement between types, which is the catalog's.
-/

set_option autoImplicit false

namespace ConceptScript

/-- How a member is written: one text token, or a dotted path of them. -/
inductive Member.Kind where
  | text
  | reference
  deriving DecidableEq, Repr

/-- A parameter of a concept type. -/
structure Member where
  name : String
  kind : Member.Kind := .text
  description : Option String := none
  deriving DecidableEq, Repr

/-- The member as signatures show it: `<Name>`, or `<Name.>` for a dotted path. -/
def Member.label (member : Member) : String :=
  match member.kind with
  | .text => "<" ++ member.name ++ ">"
  | .reference => "<" ++ member.name ++ ".>"

/-- One statement form of the language. A type without keyword is never written. Every type may
stand outside of all others; `parents` names the types it may also stand inside of. -/
structure ConceptType where
  name : String
  keyword : Option String := none
  description : String := ""
  parents : List String := []
  members : List Member := []
  deriving DecidableEq, Repr

/-- Equality up to the case of ASCII letters. -/
def sameKeyword (left right : String) : Bool :=
  left.toList.map Char.toLower = right.toList.map Char.toLower

namespace ConceptType

def matchesKeyword (type : ConceptType) (keyword : String) : Bool :=
  type.keyword.any fun own => sameKeyword own keyword

def allowedIn (type : ConceptType) (parent : String) : Bool :=
  type.parents.contains parent

/-- The word that stands for the type where it is shown. -/
def title (type : ConceptType) : String :=
  type.keyword.getD type.name

/-- The keyword followed by the labels of the members. -/
def signature (type : ConceptType) : String :=
  " ".intercalate (type.title :: type.members.map Member.label)

def memberIndex? (type : ConceptType) (member : String) : Option Nat :=
  type.members.findIdx? fun declared => declared.name == member

end ConceptType

/-- An occurrence of a type: the values of its first members, all of them once it is complete. -/
structure Concept where
  type : ConceptType
  values : List String
  deriving DecidableEq, Repr

namespace Concept

def typeName (concept : Concept) : String :=
  concept.type.name

def display (concept : Concept) : String :=
  " ".intercalate (concept.type.title :: concept.values)

end Concept

end ConceptScript
