import ConceptScript.Server.Protocol.Basic

/-!
Contract: the parameters of methods.

Owns the shape of the parameters of every request, and of the notifications that the server heeds.

Does not own what a connecting client says about itself.
-/

set_option autoImplicit false

namespace ConceptScript.Shape

/-! ## Notifications -/

def opening : Shape :=
  plain [required "textDocument" documentContent]

def changing : Shape :=
  plain [required "textDocument" versionedDocument,
    required "contentChanges" (.list contentChange)]

def closing : Shape :=
  plain [inDocument]

/-! ## Requests that are answered -/

def completing : Shape :=
  merged (atPlace ++ partialProgress ++ [optional "context"
    (plain [required "triggerKind" signed32, optional "triggerCharacter" .text])])

def hovering : Shape :=
  merged (atPlace ++ progress)

def parameter : Shape :=
  plain [required "label" (.either .text (.pair unsigned32)),
    optional "documentation" documentation]

def signatureInformation : Shape :=
  plain [required "label" .text, optional "documentation" documentation,
    optional "parameters" (.list parameter), optional "activeParameter" unsigned32]

def shownSignatures : Shape :=
  plain [required "signatures" (.list signatureInformation),
    optional "activeSignature" unsigned32, optional "activeParameter" unsigned32]

def askingSignature : Shape :=
  merged (atPlace ++ progress ++ [optional "context"
    (plain [required "triggerKind" signed32, optional "triggerCharacter" .text,
      required "isRetrigger" .flag, optional "activeSignatureHelp" shownSignatures])])

/-! ## Other requests -/

/-- A place, with results in parts. -/
def placeQuery : Shape :=
  merged (atPlace ++ partialProgress)

/-- A place, with one result. -/
def placeRequest : Shape :=
  merged (atPlace ++ progress)

/-- A whole document, with results in parts. -/
def documentQuery : Shape :=
  merged (inDocument :: partialProgress)

def referenceQuery : Shape :=
  merged (atPlace ++ partialProgress ++
    [required "context" (plain [required "includeDeclaration" .flag])])

def hierarchyItem (tags : Shape) : Shape :=
  plain [required "name" .text, required "kind" signed32, optional "tags" tags,
    optional "detail" .text, required "uri" .uri, required "range" range,
    required "selectionRange" range, optional "data" .anything]

def callQuery : Shape :=
  merged (required "item" (hierarchyItem (.list signed32)) :: partialProgress)

def typeQuery : Shape :=
  merged (required "item" (hierarchyItem signed32) :: partialProgress)

def documentLink : Shape :=
  plain [required "range" range, optional "target" .uri, optional "tooltip" .text,
    optional "data" .anything]

def codeLens : Shape :=
  plain [required "range" range, optional "command" command, optional "data" .anything]

def selectionQuery : Shape :=
  merged (inDocument :: required "positions" (.list position) :: partialProgress)

def tokensDeltaQuery : Shape :=
  merged (inDocument :: required "previousResultId" .text :: partialProgress)

def tokensRangeQuery : Shape :=
  merged (inDocument :: required "range" range :: partialProgress)

def inlineValueRequest : Shape :=
  merged ([inDocument, required "range" range, required "context"
    (plain [required "frameId" signed32, required "stoppedLocation" range])] ++ progress)

def inlayHintRequest : Shape :=
  merged (inDocument :: required "range" range :: progress)

def inlayLabelPart : Shape :=
  plain [required "value" .text, optional "tooltip" documentation, optional "location" location,
    optional "command" command]

def inlayHint : Shape :=
  plain [required "position" position,
    required "label" (.either .text (.list inlayLabelPart)), optional "kind" signed32,
    optional "textEdits" (.list textEdit), optional "tooltip" documentation,
    optional "paddingLeft" .flag, optional "paddingRight" .flag, optional "data" .anything]

def completionEdit : Shape :=
  .either textEdit
    (plain [required "newText" .text, required "insert" range, required "replace" range])

def completionItem : Shape :=
  plain [required "label" .text,
    optional "labelDetails" (plain [optional "detail" .text, optional "description" .text]),
    optional "kind" signed32, optional "detail" .text, optional "documentation" documentation,
    optional "deprecated" .flag, optional "preselect" .flag, optional "sortText" .text,
    optional "filterText" .text, optional "insertText" .text,
    optional "insertTextFormat" signed32, optional "insertTextMode" signed32,
    optional "textEdit" completionEdit, optional "additionalTextEdits" (.list textEdit),
    optional "command" command, optional "commitCharacters" texts, optional "data" .anything,
    optional "tags" (.list signed32)]

def diagnosticQuery : Shape :=
  merged ([inDocument, optional "identifier" .text, optional "previousResultId" .text] ++
    partialProgress)

def workspaceDiagnosticQuery : Shape :=
  merged ([optional "identifier" .text, required "previousResultIds"
    (.list (plain [required "uri" .uri, required "value" .text]))] ++ partialProgress)

def codeActionQuery : Shape :=
  merged ([inDocument, required "range" range, required "context"
    (plain [required "diagnostics" (.list diagnostic), optional "only" texts,
      optional "triggerKind" signed32])] ++ partialProgress)

def codeAction : Shape :=
  plain [required "title" .text, optional "kind" .text,
    optional "diagnostics" (.list diagnostic), optional "edit" workspaceEdit,
    optional "command" command, optional "isPreferred" .flag,
    optional "disabled" (plain [required "reason" .text]), optional "data" .anything]

def colorQuery : Shape :=
  merged ([inDocument, required "color" (plain [required "red" .number, required "green" .number,
    required "blue" .number, required "alpha" .number]), required "range" range] ++
    partialProgress)

/-- Every further option is a flag, a number or a text. -/
def formattingOptions : Shape :=
  .openRecord [required "tabSize" unsigned32, required "insertSpaces" .flag,
    optional "trimTrailingWhitespace" .flag, optional "insertFinalNewline" .flag,
    optional "trimFinalNewlines" .flag] (.either .flag numberOrText)

def formattingRequest : Shape :=
  merged (inDocument :: required "options" formattingOptions :: progress)

def rangeFormattingRequest : Shape :=
  merged ([inDocument, required "range" range, required "options" formattingOptions] ++ progress)

def typeFormattingRequest : Shape :=
  merged (atPlace ++ [required "ch" .text, required "options" formattingOptions])

def renameRequest : Shape :=
  merged (atPlace ++ required "newName" .text :: progress)

def symbolQuery : Shape :=
  merged (required "query" .text :: partialProgress)

def workspaceSymbol : Shape :=
  plain [required "name" .text, required "kind" signed32, optional "tags" (.list signed32),
    optional "containerName" .text, required "location" (.either location document),
    optional "data" .anything]

def savingRequest : Shape :=
  plain [inDocument, required "reason" signed32]

def files (keys : List String) : Shape :=
  plain [required "files" (.list (plain (keys.map fun key => required key .text)))]

def commandRequest : Shape :=
  merged (required "command" .text :: ("arguments", .defaulted, .list .anything) :: progress)

/-- The requests that the server knows but does not answer, with their parameters. -/
def unansweredRequests : List (String × Shape) :=
  [("textDocument/willSaveWaitUntil", savingRequest),
    ("textDocument/declaration", placeQuery),
    ("textDocument/definition", placeQuery),
    ("textDocument/typeDefinition", placeQuery),
    ("textDocument/implementation", placeQuery),
    ("textDocument/references", referenceQuery),
    ("textDocument/prepareCallHierarchy", placeRequest),
    ("callHierarchy/incomingCalls", callQuery),
    ("callHierarchy/outgoingCalls", callQuery),
    ("textDocument/prepareTypeHierarchy", placeRequest),
    ("typeHierarchy/supertypes", typeQuery),
    ("typeHierarchy/subtypes", typeQuery),
    ("textDocument/documentHighlight", placeQuery),
    ("textDocument/documentLink", documentQuery),
    ("documentLink/resolve", documentLink),
    ("textDocument/codeLens", documentQuery),
    ("codeLens/resolve", codeLens),
    ("textDocument/foldingRange", documentQuery),
    ("textDocument/selectionRange", selectionQuery),
    ("textDocument/documentSymbol", documentQuery),
    ("textDocument/semanticTokens/full", documentQuery),
    ("textDocument/semanticTokens/full/delta", tokensDeltaQuery),
    ("textDocument/semanticTokens/range", tokensRangeQuery),
    ("textDocument/inlineValue", inlineValueRequest),
    ("textDocument/inlayHint", inlayHintRequest),
    ("inlayHint/resolve", inlayHint),
    ("textDocument/moniker", placeQuery),
    ("completionItem/resolve", completionItem),
    ("textDocument/diagnostic", diagnosticQuery),
    ("workspace/diagnostic", workspaceDiagnosticQuery),
    ("textDocument/codeAction", codeActionQuery),
    ("codeAction/resolve", codeAction),
    ("textDocument/documentColor", documentQuery),
    ("textDocument/colorPresentation", colorQuery),
    ("textDocument/formatting", formattingRequest),
    ("textDocument/rangeFormatting", rangeFormattingRequest),
    ("textDocument/onTypeFormatting", typeFormattingRequest),
    ("textDocument/rename", renameRequest),
    ("textDocument/prepareRename", plain atPlace),
    ("textDocument/linkedEditingRange", placeRequest),
    ("workspace/symbol", symbolQuery),
    ("workspaceSymbol/resolve", workspaceSymbol),
    ("workspace/willCreateFiles", files ["uri"]),
    ("workspace/willRenameFiles", files ["oldUri", "newUri"]),
    ("workspace/willDeleteFiles", files ["uri"]),
    ("workspace/executeCommand", commandRequest)]

end ConceptScript.Shape
