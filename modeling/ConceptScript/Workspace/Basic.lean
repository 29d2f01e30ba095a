import ConceptScript.Document
import ConceptScript.Uri.Basic

/-!
Contract: the documents that a client has open.

Owns when documents were changed and closed.

Does not own who asks for changes. Instants are numbers that grow with every event.
-/

set_option autoImplicit false

namespace ConceptScript

abbrev Instant := Nat

structure OpenDocument where
  document : Document
  updatedAt : Instant

structure Workspace where
  context : Context := {}
  opened : List (Uri × OpenDocument) := []
  /-- When documents were closed that have not been opened again since. -/
  closed : List (Uri × Instant) := []

namespace Workspace

def find? (workspace : Workspace) (uri : Uri) : Option OpenDocument :=
  workspace.opened.lookup uri

def document? (workspace : Workspace) (uri : Uri) : Option Document :=
  (workspace.find? uri).map OpenDocument.document

/-- Puts a document in the place of the one with the same address, or behind all others. -/
def put (uri : Uri) (entry : OpenDocument) :
    List (Uri × OpenDocument) → List (Uri × OpenDocument)
  | [] => [(uri, entry)]
  | (other, kept) :: later =>
    if other = uri then (uri, entry) :: later else (other, kept) :: put uri entry later

/-- Replaces the text of an open document, or opens one. It then no longer counts as closed. -/
def update (now : Instant) (uri : Uri) (content : String) (workspace : Workspace) : Workspace :=
  let document := match workspace.document? uri with
    | some document => document.update content
    | none => .ofString content
  { workspace with
    opened := put uri ⟨document, now⟩ workspace.opened
    closed := workspace.closed.filter fun mark => mark.1 ≠ uri }

/-- Closes a document. Nothing happens if it is not open. -/
def close (now : Instant) (uri : Uri) (workspace : Workspace) : Workspace :=
  match workspace.find? uri with
  | none => workspace
  | some _ =>
    { workspace with
      opened := workspace.opened.filter fun entry => entry.1 ≠ uri
      closed := (uri, now) :: workspace.closed.filter fun mark => mark.1 ≠ uri }

/-- Keeps an open document after it was used. -/
def store (uri : Uri) (document : Document) (workspace : Workspace) : Workspace :=
  match workspace.find? uri with
  | none => workspace
  | some entry =>
    { workspace with opened := put uri { entry with document := document } workspace.opened }

/-- Asks an open document, which may remember the analysis that the answer needs. -/
def ask {α : Type} (workspace : Workspace) (uri : Uri)
    (question : Context → Document → α × Document) : Option α × Workspace :=
  match workspace.document? uri with
  | none => (none, workspace)
  | some document =>
    let (answer, document) := question workspace.context document
    (some answer, workspace.store uri document)

def isLater (since : Option Instant) (instant : Instant) : Bool :=
  since.all fun since => since < instant

/-- The open documents changed after an instant. -/
def updatedSince (workspace : Workspace) (since : Option Instant) : List Uri :=
  (workspace.opened.filter fun entry => isLater since entry.2.updatedAt).map Prod.fst

/-- The documents closed after an instant. -/
def closedSince (workspace : Workspace) (since : Option Instant) : List Uri :=
  (workspace.closed.filter fun mark => isLater since mark.2).map Prod.fst

/-- Forgets which documents were closed up to an instant. -/
def forgetClosed (workspace : Workspace) (instant : Instant) : Workspace :=
  { workspace with closed := workspace.closed.filter fun mark => instant < mark.2 }

/-- Sets the catalog of all documents, if they have none yet. -/
def install (catalog : Catalog) (workspace : Workspace) : Bool × Workspace :=
  let (first, context) := workspace.context.install catalog
  (first, { workspace with context := context })

end Workspace

end ConceptScript
