import ConceptScript.Analysis.Basic

/-!
Contract: an open document and the analyses made of its current text.

Owns the catalog that is set once, the cache key of a position, and when a cached analysis is used
and dropped.

Does not own what an analysis says.
-/

set_option autoImplicit false

namespace ConceptScript

/-- The catalog shared by all documents, once it is known. -/
structure Context where
  catalog : Option Catalog := none

/-- Sets the catalog. The first one stays; the answer tells whether this was the first. -/
def Context.install (context : Context) (catalog : Catalog) : Bool × Context :=
  match context.catalog with
  | none => (true, ⟨some catalog⟩)
  | some _ => (false, context)

/-- What an analysis is remembered under: the offset that its position stands for, or the whole
text. Positions that stand for one offset share an analysis. -/
inductive Document.Key where
  | offset (value : Nat)
  | whole
  deriving DecidableEq, Repr

structure Document where
  text : Text
  cache : List (Document.Key × Analysis) := []
  /-- How often the text has been replaced. -/
  revision : Nat := 0
  deriving DecidableEq, Repr

namespace Document

def ofString (content : String) : Document :=
  { text := .ofString content }

/-- Replaces the text and forgets all analyses of the previous one. -/
def update (document : Document) (content : String) : Document :=
  { text := .ofString content, revision := document.revision + 1 }

def keyOf (document : Document) : Option Position → Key
  | some position => .offset (document.text.offsetOf position)
  | none => .whole

def cached? (document : Document) (key : Key) : Option Analysis :=
  document.cache.lookup key

/-- The analysis at a position or of the whole text. Without a catalog nothing is remembered. -/
def analyse (context : Context) (document : Document) (position : Option Position) :
    Analysis × Document :=
  let key := document.keyOf position
  match document.cached? key, context.catalog with
  | some analysis, _ => (analysis, document)
  | none, none => (.unavailable document.text, document)
  | none, some catalog =>
    let analysis := Analysis.run catalog document.text position
    (analysis, { document with cache := (key, analysis) :: document.cache })

end Document

end ConceptScript
