import ConceptScript.Catalog.Basic
import ConceptScript.Yaml.Decode

/-!
Contract: catalogs written as YAML text.

Owns the fields of concept types and members, with their defaults.

Does not own files.
-/

set_option autoImplicit false

namespace ConceptScript.Catalog

open Yaml

def decodeMemberKind (graph : Graph) (node : Node) : Decode Member.Kind := do
  match ← Decode.choice graph node with
  | "text" => return .text
  | "reference" => return .reference
  | _ => failure

def decodeMember (graph : Graph) (node : Node) : Decode Member := do
  let fields ← Decode.fields graph node
  let some name ← Decode.field? fields "name" | failure
  return {
    name := ← Decode.text graph name
    kind := ← Decode.fieldOr fields "kind" .text (decodeMemberKind graph)
    description := ← Decode.fieldOr fields "description" none
      (Decode.optional graph (Decode.text graph)) }

def decodeType (graph : Graph) (node : Node) : Decode ConceptType := do
  let fields ← Decode.fields graph node
  let some name ← Decode.field? fields "name" | failure
  return {
    name := ← Decode.text graph name
    keyword := ← Decode.fieldOr fields "keyword" none (Decode.optional graph (Decode.text graph))
    description := ← Decode.fieldOr fields "description" "" (Decode.text graph)
    parents := ← Decode.fieldOr fields "parents" [] (Decode.list graph (Decode.text graph))
    members := ← Decode.fieldOr fields "members" [] (Decode.list graph (decodeMember graph)) }

/-- The types listed under `concepts`. Other fields are ignored. -/
def decodeTypes (graph : Graph) (node : Node) : Decode (List ConceptType) := do
  let fields ← Decode.fields graph node
  Decode.fieldOr fields "concepts" [] (Decode.list graph (decodeType graph))

/-- The types that a text lists; `none` if it is malformed or lists something else. -/
def readTypes? (source : String) : Option (List ConceptType) :=
  (Yaml.parse? source.toList).bind (Decode.run decodeTypes)

end ConceptScript.Catalog
