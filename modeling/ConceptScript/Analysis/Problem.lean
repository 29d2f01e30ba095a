import ConceptScript.Text.Position

/-!
Contract: a finding about a document, at a line and column.

Owns severities and problems.

Does not own their ranges, which depend on the tokens around them.
-/

set_option autoImplicit false

namespace ConceptScript

inductive Severity where
  | error
  | warning
  deriving DecidableEq, Repr

structure Problem where
  position : Position
  message : String
  severity : Severity := .error
  deriving DecidableEq, Repr

end ConceptScript
