import ConceptScript.Catalog.BuiltIn
import ConceptScript.Catalog.Load
import ConceptScript.Config
import ConceptScript.Editor.Completion
import ConceptScript.Editor.SignatureHelp
import ConceptScript.Server.Message
import ConceptScript.Workspace.Publisher

/-!
Contract: what the server does for each call.

Owns the effect of calls on settings, documents and the publishing of diagnostics, and what the
client is told.

Does not own whether a call is allowed, nor access to files: a turn says which catalog it wants, and
the host answers with what stands at that path.
-/

set_option autoImplicit false

namespace ConceptScript

inductive Answer where
  | capabilities
  | done
  /-- No answer for a document that is not open. -/
  | completions (items : Option (List Completion))
  | hover (hover : Option Hover)
  | signatureHelp (help : Option SignatureHelp)

/-- What the server tells without being asked. -/
inductive Notice where
  | ready
  | loadFailed (fault : LoadFault)
  | diagnostics (dispatch : Dispatch)
  deriving DecidableEq, Repr

structure Server where
  environment : Environment := {}
  config : Config := {}
  workspace : Workspace := {}
  publisher : Option Publisher := none
  /-- How many turns there have been. -/
  now : Instant := 0
  /-- How many milliseconds have passed. -/
  time : Nat := 0

namespace Server

/-- What comes of one turn. -/
structure Turn where
  server : Server
  answer : Option Answer := none
  notices : List Notice := []
  /-- The path of a catalog that the host has to look up. -/
  wanted : Option String := none

/-! ## Catalogs -/

def install (server : Server) (catalog : Catalog) : Server :=
  { server with workspace := (server.workspace.install catalog).2 }

/-- Takes the settings to work with. Without a path the built-in catalog is there at once. -/
def connect (server : Server) (options : Json) : Turn :=
  let config := Config.effective server.environment options
  let server := { server with config := config }
  match config.catalogPath with
  | none => { server := server.install .builtIn, answer := some .capabilities }
  | some path => { server := server, answer := some .capabilities, wanted := some path }

/-- Takes what the host has found at the path of a catalog. If there is no catalog the built-in one
is used. -/
def catalogFound (server : Server) (path : String) (located : Located) : Turn :=
  match Catalog.load path located with
  | .ok catalog => { server := server.install catalog }
  | .error fault => { server := server.install .builtIn, notices := [.loadFailed fault] }

/-! ## Documents -/

def update (server : Server) (uri : Uri) (content : String) : Server :=
  { server with workspace := server.workspace.update server.now uri content }

/-- The last of several changes counts. -/
def change (server : Server) (uri : Uri) (contents : List String) : Server :=
  match contents.getLast? with
  | some content => server.update uri content
  | none => server

def close (server : Server) (uri : Uri) : Server :=
  { server with workspace := server.workspace.close server.now uri }

/-- Asks an open document. -/
def ask {α : Type} (server : Server) (uri : Uri)
    (question : Context → Document → α × Document) : Option α × Server :=
  let (answer, workspace) := server.workspace.ask uri question
  (answer, { server with workspace := workspace })

def completions (server : Server) (uri : Uri) (position : Position) :
    Option (List Completion) × Server :=
  server.ask uri fun context document => document.completionsAt context position

def hover (server : Server) (uri : Uri) (position : Position) : Option Hover × Server :=
  let (answer, server) :=
    server.ask uri fun context document => document.hoverAt? context position
  (answer.join, server)

def signatureHelp (server : Server) (uri : Uri) (position : Position) :
    Option SignatureHelp × Server :=
  let (answer, server) :=
    server.ask uri fun context document => document.signatureHelpAt? context position
  (answer.join, server)

/-! ## Publishing -/

/-- Starts publishing with the interval of the settings. -/
def startPublishing (server : Server) : Server :=
  let publisher := server.publisher.getD { interval := server.config.interval }
  { server with publisher := some (publisher.start server.time) }

def stopPublishing (server : Server) : Server :=
  { server with publisher := server.publisher.map Publisher.stop }

/-- Lets time pass. The client of the server accepts every dispatch. -/
def elapse (server : Server) (milliseconds : Nat) : Turn :=
  let server := { server with now := server.now + 1, time := server.time + milliseconds }
  match server.publisher with
  | none => { server := server }
  | some publisher =>
    let pass := publisher.tick (fun _ => .accepted) server.now server.time server.workspace
    { server := { server with publisher := some pass.publisher, workspace := pass.workspace }
      notices := pass.delivered.map .diagnostics }

/-! ## Calls -/

def handle (server : Server) (call : Call) : Turn :=
  let server := { server with now := server.now + 1 }
  match call with
  | .connect options => server.connect options
  | .connected => { server := server.startPublishing, notices := [.ready] }
  | .shutdown => { server := server.stopPublishing, answer := some .done }
  | .documentOpened uri content => { server := server.update uri content }
  | .documentChanged uri contents => { server := server.change uri contents }
  | .documentClosed uri => { server := server.close uri }
  | .completion uri position =>
    let (items, server) := server.completions uri position
    { server := server, answer := some (.completions items) }
  | .hover uri position =>
    let (hover, server) := server.hover uri position
    { server := server, answer := some (.hover hover) }
  | .signatureHelp uri position =>
    let (help, server) := server.signatureHelp uri position
    { server := server, answer := some (.signatureHelp help) }
  | .other => { server := server }

end Server

end ConceptScript
