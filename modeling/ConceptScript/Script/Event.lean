import ConceptScript.Script.Reader

/-!
Contract: what the parser reports while it reads a script.

Owns the events. Every event carries the place it was reported at.

Does not own their order, which is the parser's, and what is concluded from them.
-/

set_option autoImplicit false

namespace ConceptScript

inductive Event where
  /-- A concept starts with this keyword, or, without keyword, one has just been ended. -/
  | keyword (reader : Reader) (keyword : Option String)
  /-- A member was read, and the concept includes its value, or it could not be read. -/
  | member (reader : Reader) (concept : Concept) (member : Member) (value : Except Fault String)
  /-- A block was opened. The enclosing concepts are given innermost first. -/
  | opened (reader : Reader) (stack : List Concept)
  /-- A block was closed. The concepts still open are given innermost first. -/
  | closed (reader : Reader) (stack : List Concept)

namespace Event

def reader : Event → Reader
  | .keyword reader _ => reader
  | .member reader _ _ _ => reader
  | .opened reader _ => reader
  | .closed reader _ => reader

end Event

end ConceptScript
