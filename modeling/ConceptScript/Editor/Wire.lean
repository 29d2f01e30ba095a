import ConceptScript.Editor.Completion
import ConceptScript.Editor.Diagnostic
import ConceptScript.Editor.SignatureHelp
import ConceptScript.Json.Basic

/-!
Contract: editor answers as values of the language-server protocol.

Owns field names, the numbers of kinds and severities, and how numbers are cut to 32 bits.

Does not own requests and notifications.
-/

set_option autoImplicit false

namespace ConceptScript

/-- Coordinates on the wire have 32 bits; larger ones are sent as the largest. -/
def wireLimit : Nat :=
  4294967295

/-- A position whose column already counts UTF-16 units. -/
def Position.wire (position : Position) : Json :=
  .object [("line", .nat (min position.line wireLimit)),
    ("character", .nat (min position.column wireLimit))]

def wireRange (start stop : Position) : Json :=
  .object [("start", start.wire), ("end", stop.wire)]

def wireMarkdown (value : String) : Json :=
  .object [("kind", .string "markdown"), ("value", .string value)]

/-- Completions are of the kind for keywords. -/
def Completion.wire (completion : Completion) : Json :=
  .object ([("label", .string completion.keyword), ("kind", .nat 14)] ++
    Json.optional "detail" .string completion.detail)

def Hover.wire (hover : Hover) : Json :=
  .object [("contents", wireMarkdown hover.description),
    ("range", wireRange hover.start hover.stop)]

namespace SignatureHelp

def Label.wire : Label → Json
  | .span start stop => .array [.nat start.toNat, .nat stop.toNat]
  | .text label => .string label

def wireMember (member : Member) (label : Label) : Json :=
  .object (("label", label.wire) :: Json.optional "documentation" .string member.description)

def wireSignature (type : ConceptType) : Json :=
  let documentation := if type.description.isEmpty then none else some type.description
  .object ([("label", .string type.signature)] ++
    Json.optional "documentation" wireMarkdown documentation ++
    [("parameters", .array (type.members.zipWith wireMember (labelsOf type)))])

/-- The number of a signature or member, cut to 32 bits. -/
def wireNumber (number : Nat) : Json :=
  .nat (UInt32.ofNat number).toNat

def wire (help : SignatureHelp) : Json :=
  .object ([("signatures", .array (help.signatures.map wireSignature))] ++
    Json.optional "activeSignature" wireNumber help.activeSignature ++
    Json.optional "activeParameter" wireNumber help.activeMember)

end SignatureHelp

def Severity.wire : Severity → Json
  | .error => .nat 1
  | .warning => .nat 2

def Diagnostic.wire (diagnostic : Diagnostic) : Json :=
  .object [("range", wireRange diagnostic.start diagnostic.stop),
    ("severity", diagnostic.severity.wire), ("source", .string "concept-lsp"),
    ("message", .string diagnostic.message)]

end ConceptScript
