import ConceptScript.Document

/-!
Contract: the documentation of the concept that a position is in.

Owns when there is documentation to show, and the range it is shown for.

Does not own how an editor shows it.
-/

set_option autoImplicit false

namespace ConceptScript

structure Hover where
  description : String
  start : Position
  stop : Position
  deriving DecidableEq, Repr

/-- The active keyword, where help on it can be relied on: no problem stands on or above the
line. -/
def Analysis.helpKeyword? (analysis : Analysis) (position : Position) : Option Token :=
  if analysis.isBelowProblem position then none else analysis.cursor.keyword

/-- The range starts at the keyword and ends in front of the next keyword or end of a concept, or at
the position where none follows. -/
def Analysis.hover? (catalog : Catalog) (analysis : Analysis) (position : Position) :
    Option Hover :=
  (analysis.helpKeyword? position).map fun keyword =>
    let documentation := catalog.documentationFor keyword.value
    { description :=
        if documentation.isEmpty then "No documentation found for '" ++ keyword.value ++ "'."
        else documentation
      start := analysis.text.positionOf keyword.start
      stop :=
        match analysis.cursor.next with
        | some next => analysis.text.positionOf (next.start - 1)
        | none => position }

def Document.hover? (context : Context) (document : Document) (position : Position) :
    Option Hover × Document :=
  match context.catalog with
  | none => (none, document)
  | some catalog =>
    let (analysis, document) := document.analyse context (some position)
    (analysis.hover? catalog position, document)

/-- The hover with columns in UTF-16 units, for a position whose column counts them too. -/
def Document.hoverAt? (context : Context) (document : Document) (position : Position) :
    Option Hover × Document :=
  let position := document.text.ofUtf16 position
  match document.hover? context position with
  | (none, document) => (none, document)
  | (some hover, document) =>
    let (analysis, document) := document.analyse context (some position)
    (some { hover with
      start := analysis.text.toUtf16 hover.start
      stop := analysis.text.toUtf16 hover.stop }, document)

end ConceptScript
