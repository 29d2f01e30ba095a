import ConceptScript.Editor.Wire
import ConceptScript.Server.Session

/-!
Contract: replies and notices as values of the language-server protocol.

Owns the announced capabilities, the codes of refusals and the names of notifications.

Does not own when they are sent.
-/

set_option autoImplicit false

namespace ConceptScript

def Refusal.code : Refusal → Int
  | .notConnected => -32002
  | .invalidRequest => -32600
  | .unknownMethod => -32601
  | .invalidParams => -32602

def Refusal.message : Refusal → String
  | .notConnected => "Server not initialized"
  | .invalidRequest => "Invalid request"
  | .unknownMethod => "Method not found"
  | .invalidParams => "Invalid params"

/-- Documents are exchanged as a whole, and there are completions, hovers and signature help. -/
def wireCapabilities : Json :=
  .object [
    ("textDocumentSync", .nat 1),
    ("completionProvider", .object [("resolveProvider", .bool false),
      ("triggerCharacters", .strings [".", " ", "\x7b"])]),
    ("hoverProvider", .bool true),
    ("signatureHelpProvider", .object [("triggerCharacters", .strings [".", " ", ";", "\x7b"]),
      ("retriggerCharacters", .strings [" "])])]

def wireServerInfo : Json :=
  .object [("name", .string "concept-lsp"), ("version", .string "0.1.0")]

def Answer.wire : Answer → Json
  | .capabilities =>
    .object [("capabilities", wireCapabilities), ("serverInfo", wireServerInfo)]
  | .done => .null
  | .completions items => .orNull (fun items => .array (items.map Completion.wire)) items
  | .hover description => .orNull Hover.wire description
  | .signatureHelp help => .orNull SignatureHelp.wire help

namespace Notice

def method : Notice → String
  | .ready => "window/logMessage"
  | .loadFailed _ => "window/showMessage"
  | .diagnostics _ => "textDocument/publishDiagnostics"

/-- A message of a kind, of which 1 is an error and 3 is for information. -/
def wireMessage (kind : Nat) (text : String) : Json :=
  .object [("type", .nat kind), ("message", .string text)]

def params : Notice → Json
  | .ready => wireMessage 3 "Concept Language Server ready"
  | .loadFailed fault =>
    wireMessage 1
      ("Failed to load concept catalog, using the built-in one: " ++ fault.explanation)
  | .diagnostics dispatch =>
    .object [("uri", .string dispatch.uri.text),
      ("diagnostics", .array (dispatch.diagnostics.map Diagnostic.wire))]

end Notice

/-! ## Whole messages -/

def wireProtocol : String × Json :=
  ("jsonrpc", .string "2.0")

def Notice.wire (notice : Notice) : Json :=
  .object [wireProtocol, ("method", .string notice.method), ("params", notice.params)]

def Refusal.wire (refusal : Refusal) : Json :=
  .object [("code", .integer refusal.code), ("message", .string refusal.message)]

/-- The reply to the request with an identifier, if there is one. -/
def Reply.wire? (id : Json) : Reply → Option Json
  | .silence => none
  | .answer value => some (.object [wireProtocol, ("result", value.wire), ("id", id)])
  | .refusal reason => some (.object [wireProtocol, ("error", reason.wire), ("id", id)])
  | .gone => none

end ConceptScript
