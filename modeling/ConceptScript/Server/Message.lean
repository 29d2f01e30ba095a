import ConceptScript.Server.Protocol.Capabilities
import ConceptScript.Server.Protocol.Params
import ConceptScript.Text.Position

/-!
Contract: what a client sends.

Owns the methods that are known, and the calls that their parameters make.

Does not own when a method may be called, nor the shapes of parameters.
-/

set_option autoImplicit false

namespace ConceptScript

/-- A message with an identifier is a request and gets a reply; one without is a notification. -/
structure Message where
  id : Option Json := none
  method : String
  params : Option Json := none

def Message.ofJson? (value : Json) : Option Message := do
  let method ← (← value.field? "method").string?
  return { id := value.field? "id", method := method, params := value.field? "params" }

/-- The methods of the protocol. Those that this server does nothing for only matter as requests or
notifications. -/
inductive Method where
  | connect
  | connected
  | shutdown
  | exit
  /-- Would stop a request that is being handled. -/
  | cancel
  | documentOpened
  | documentChanged
  | documentClosed
  | completion
  | hover
  | signatureHelp
  | otherRequest (params : Shape)
  | otherNotification
  /-- A client may do without a method that is marked as optional. -/
  | unknown (isOptional : Bool)

namespace Method

def otherNotifications : List String :=
  ["textDocument/willSave", "textDocument/didSave", "workspace/didChangeConfiguration",
    "workspace/didChangeWorkspaceFolders", "workspace/didCreateFiles", "workspace/didRenameFiles",
    "workspace/didDeleteFiles", "workspace/didChangeWatchedFiles"]

/-- The method with a name. Names of optional methods start with a dollar sign and a slash. -/
def ofName (name : String) : Method :=
  match name with
  | "initialize" => .connect
  | "initialized" => .connected
  | "shutdown" => .shutdown
  | "exit" => .exit
  | "$/cancelRequest" => .cancel
  | "textDocument/didOpen" => .documentOpened
  | "textDocument/didChange" => .documentChanged
  | "textDocument/didClose" => .documentClosed
  | "textDocument/completion" => .completion
  | "textDocument/hover" => .hover
  | "textDocument/signatureHelp" => .signatureHelp
  | other =>
    match Shape.unansweredRequests.lookup other with
    | some params => .otherRequest params
    | none =>
      if otherNotifications.contains other then .otherNotification
      else .unknown (['$', '/'].isPrefixOf other.toList)

def isRequest : Method → Bool
  | .connect => true
  | .shutdown => true
  | .completion => true
  | .hover => true
  | .signatureHelp => true
  | .otherRequest _ => true
  | _ => false

end Method

/-- A method with the parameters it needs. Positions count columns in UTF-16 units. -/
inductive Call where
  | connect (options : Json)
  | connected
  | shutdown
  | documentOpened (uri : Uri) (content : String)
  /-- Each change gives the whole content anew. -/
  | documentChanged (uri : Uri) (contents : List String)
  | documentClosed (uri : Uri)
  | completion (uri : Uri) (position : Position)
  | hover (uri : Uri) (position : Position)
  | signatureHelp (uri : Uri) (position : Position)
  | other

namespace Call

/-! ## Parts of parameters in plain form -/

def uri? (params : Json) : Option Uri := do
  return ⟨← (← (← params.field? "textDocument").field? "uri").string?⟩

def text? (value : Json) : Option String := do
  (← value.field? "text").string?

def position? (params : Json) : Option Position := do
  let position ← params.field? "position"
  return ⟨← (← position.field? "line").nat?, ← (← position.field? "character").nat?⟩

/-! ## Calls -/

def connect? (params : Json) : Option Call := do
  let params ← Shape.connecting.read? params
  return .connect ((params.field? "initializationOptions").getD .null)

def opened? (params : Json) : Option Call := do
  let params ← Shape.opening.read? params
  return .documentOpened (← uri? params) (← text? (← params.field? "textDocument"))

def changed? (params : Json) : Option Call := do
  let params ← Shape.changing.read? params
  let changes ← (← params.field? "contentChanges").array?
  return .documentChanged (← uri? params) (← changes.mapM text?)

def closed? (params : Json) : Option Call := do
  return .documentClosed (← uri? (← Shape.closing.read? params))

/-- A call about a place in a document. -/
def atPlace? (shape : Shape) (call : Uri → Position → Call) (params : Json) : Option Call := do
  let params ← shape.read? params
  return call (← uri? params) (← position? params)

/-- Reads the parameters of a method; `none` if they are missing or malformed. -/
def ofParams? : Method → Option Json → Option Call
  | .connect, some params => connect? params
  | .connected, some params => ((Shape.plain []).read? params).map fun _ => .connected
  | .shutdown, none => some .shutdown
  | .documentOpened, some params => opened? params
  | .documentChanged, some params => changed? params
  | .documentClosed, some params => closed? params
  | .completion, some params => atPlace? Shape.completing .completion params
  | .hover, some params => atPlace? Shape.hovering .hover params
  | .signatureHelp, some params => atPlace? Shape.askingSignature .signatureHelp params
  | .otherRequest shape, some params => (shape.read? params).map fun _ => .other
  | .otherNotification, some _ => some .other
  | _, _ => none

end Call

end ConceptScript
