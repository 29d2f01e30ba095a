/-!
Contract: the values exchanged with an editor.

Owns the value type, field access and the constructors the protocol's messages are built with.

Does not own the text form, which `Json.Reader` reads and `Json.Writer` writes.
-/

set_option autoImplicit false

namespace ConceptScript

/-- A wire value. A number is an `integer` when it is written without fraction and exponent; every
other number keeps the text it was written with, because no field of the protocol accepts one. -/
inductive Json where
  | null
  | bool (value : Bool)
  | integer (value : Int)
  | decimal (literal : String)
  | string (value : String)
  | array (items : List Json)
  | object (fields : List (String × Json))
  deriving Inhabited

namespace Json

def nat (value : Nat) : Json :=
  .integer value

def strings (values : List String) : Json :=
  .array (values.map .string)

/-- The value, or `null` where there is none. -/
def orNull {α : Type} (encode : α → Json) : Option α → Json
  | some value => encode value
  | none => .null

/-- One field, or no field where there is no value. -/
def optional {α : Type} (key : String) (encode : α → Json) : Option α → List (String × Json)
  | some value => [(key, encode value)]
  | none => []

/-- The value of a field; `none` if this is no object or has no such field. Of a field that is
given twice the later value counts. -/
def field? (value : Json) (key : String) : Option Json :=
  match value with
  | .object fields => fields.reverse.lookup key
  | _ => none

def string? : Json → Option String
  | .string value => some value
  | _ => none

def bool? : Json → Option Bool
  | .bool value => some value
  | _ => none

def nat? : Json → Option Nat
  | .integer (.ofNat value) => some value
  | _ => none

def array? : Json → Option (List Json)
  | .array items => some items
  | _ => none

def fields? : Json → Option (List (String × Json))
  | .object fields => some fields
  | _ => none

end Json

end ConceptScript
