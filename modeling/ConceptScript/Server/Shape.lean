import ConceptScript.Json.Basic
import ConceptScript.Uri.Basic

/-!
Contract: what the values in messages look like.

Owns shapes of values, and the plain form of a value that has a shape: records by name, addresses in
their one spelling.

Does not own which message has which shape.
-/

set_option autoImplicit false

namespace ConceptScript

/-- Whether a field of a record has to be there. -/
inductive Presence where
  | required
  /-- May be null, and may be missing where fields have names. -/
  | optional
  /-- May be null or missing. -/
  | omittable
  /-- May be missing, but not null. -/
  | defaulted
  deriving DecidableEq, Repr

inductive Shape where
  | anything
  | flag
  | text
  | uri
  | integer (least greatest : Int)
  | number
  /-- One of some words. A word may also be given as the only field of an object, with null. -/
  | word (words : List String)
  | list (item : Shape)
  | pair (item : Shape)
  /-- An object with any fields, all of one shape. -/
  | table (item : Shape)
  /-- An object whose fields are named by addresses. -/
  | uriTable (item : Shape)
  /-- The first of two shapes that fits. -/
  | either (first second : Shape)
  /-- Fields in an order. If the record may be positional, it may also be given as an array. -/
  | record (positional : Bool) (fields : List (String × Presence × Shape))
  /-- A record whose further fields have a shape, too. -/
  | openRecord (fields : List (String × Presence × Shape)) (further : Shape)

namespace Shape

def wordOf? : Json → Option String
  | .string name => some name
  | .object [(name, .null)] => some name
  | _ => none

/-- A field that may be missing. Where null stands for a missing value the field is left out. -/
def readField? (key : String) (presence : Presence) (read? : Json → Option Json) :
    Option Json → Option (List (String × Json))
  | none => if presence = .required then none else some []
  | some value =>
    match presence, value with
    | .optional, .null => some []
    | .omittable, .null => some []
    | _, value => (read? value).map fun value => [(key, value)]

mutual

/-- The plain form of a value; `none` if it does not have the shape. -/
def read? : Shape → Json → Option Json
  | .anything, value => some value
  | .flag, .bool value => some (.bool value)
  | .text, .string value => some (.string value)
  | .uri, .string value => (Uri.parse? value).map fun uri => .string uri.text
  | .integer least greatest, .integer value =>
    if least ≤ value ∧ value ≤ greatest then some (.integer value) else none
  | .number, .integer value => some (.integer value)
  | .number, .decimal literal => some (.decimal literal)
  | .word words, value => ((wordOf? value).filter words.contains).map .string
  | .list item, .array values => (values.mapM fun value => read? item value).map .array
  | .pair item, .array [first, second] => do
    return .array [← read? item first, ← read? item second]
  | .table item, .object fields => do
    return .object (← fields.mapM fun (key, value) => do return (key, ← read? item value))
  | .uriTable item, .object fields => do
    return .object (← fields.mapM fun (key, value) => do
      return ((← Uri.parse? key).text, ← read? item value))
  | .either first second, value => (read? first value).orElse fun _ => read? second value
  | .record _ fields, .object values => (readNamed? fields (.object values)).map .object
  | .record true fields, .array values => (readInOrder? fields values).map .object
  | .openRecord fields further, .object values => do
    let known ← readNamed? fields (.object values)
    let isKnown (key : String) : Bool := fields.any fun field => field.1 == key
    let more ← (values.filter fun entry => !isKnown entry.1).mapM fun (key, value) => do
      return (key, ← read? further value)
    return .object (known ++ more)
  | _, _ => none

/-- The fields of a record that are found by name. -/
def readNamed? : List (String × Presence × Shape) → Json → Option (List (String × Json))
  | [], _ => some []
  | (key, presence, shape) :: later, values => do
    let first ← readField? key presence (fun value => read? shape value) (values.field? key)
    return first ++ (← readNamed? later values)

/-- The fields of a record in order. Values may run out where fields may be missing. -/
def readInOrder? :
    List (String × Presence × Shape) → List Json → Option (List (String × Json))
  | [], [] => some []
  | [], _ :: _ => none
  | (_, presence, _) :: later, [] =>
    match presence with
    | .required | .optional => none
    | .omittable | .defaulted =>
      readInOrder? later []
  | (key, presence, shape) :: later, value :: values => do
    let first ← readField? key presence (fun value => read? shape value) (some value)
    return first ++ (← readInOrder? later values)

end

end Shape

end ConceptScript
