/-!
Contract: the tokens of YAML text.

Owns the tokens, with block structure made explicit: indentation appears as starts and ends of
blocks, and a key that is recognized only at its colon is marked in front of it.

Does not own how they are found.
-/

set_option autoImplicit false

namespace ConceptScript.Yaml

/-- Tags may be written with percent-encoded bytes, so they are kept as bytes. -/
abbrev TagText := List UInt8

inductive Token where
  | versionDirective (major minor : Nat)
  | tagDirective (handle : List Char) (expansion : TagText)
  | documentStart
  | documentEnd
  | blockSequenceStart
  | blockMappingStart
  | blockEnd
  | flowSequenceStart
  | flowSequenceEnd
  | flowMappingStart
  | flowMappingEnd
  | blockEntry
  | flowEntry
  | key
  | value
  | alias (name : List Char)
  | anchor (name : List Char)
  | tag (handle : List Char) (suffix : TagText)
  /-- Only a plain scalar can stand for an absent value. -/
  | scalar (plain : Bool) (value : String)
  deriving DecidableEq, Repr

end ConceptScript.Yaml
