import ConceptScript.Server.Protocol.Basic

/-!
Contract: what a client says about itself when it connects.

Owns the shape of the capabilities of clients and of the parameters they come with.

Does not own any use of them: they only have to be well formed.
-/

set_option autoImplicit false

namespace ConceptScript.Shape

/-- Whether a feature may be registered later. -/
def registration : Shape :=
  flags ["dynamicRegistration"]

def refreshing : Shape :=
  flags ["refreshSupport"]

def properties : Shape :=
  plain [required "properties" texts]

/-- Kinds that a client knows, by number. -/
def kinds : Shape :=
  plain [optional "valueSet" (.list signed32)]

/-- Tags that a client knows, by number. A flag is accepted, too. -/
def tagSupport : Field :=
  omittable "tagSupport" (.either .flag (plain [required "valueSet" (.list signed32)]))

/-! ## Workspace -/

def workspaceEditCapability : Shape :=
  plain [optional "documentChanges" .flag,
    optional "resourceOperations" (.list (.word ["create", "rename", "delete"])),
    optional "failureHandling"
      (.word ["abort", "transactional", "textOnlyTransactional", "undo"]),
    optional "normalizesLineEndings" .flag,
    optional "changeAnnotationSupport" (flags ["groupsOnLabel"])]

def workspaceSymbolCapability : Shape :=
  plain [optional "dynamicRegistration" .flag, optional "symbolKind" kinds, tagSupport,
    optional "resolveSupport" properties]

def workspaceCapability : Shape :=
  plain [optional "applyEdit" .flag,
    optional "workspaceEdit" workspaceEditCapability,
    optional "didChangeConfiguration" registration,
    optional "didChangeWatchedFiles" (flags ["dynamicRegistration", "relativePatternSupport"]),
    optional "symbol" workspaceSymbolCapability,
    optional "executeCommand" registration,
    optional "workspaceFolders" .flag,
    optional "configuration" .flag,
    optional "semanticTokens" refreshing,
    optional "codeLens" refreshing,
    optional "fileOperations" (flags ["dynamicRegistration", "didCreate", "willCreate",
      "didRename", "willRename", "didDelete", "willDelete"]),
    optional "inlineValue" refreshing,
    optional "inlayHint" refreshing,
    optional "diagnostic" refreshing]

/-! ## Documents -/

def completionItemCapability : Shape :=
  plain [optional "snippetSupport" .flag,
    optional "commitCharactersSupport" .flag,
    optional "documentationFormat" (.list markupKind),
    optional "deprecatedSupport" .flag,
    optional "preselectSupport" .flag,
    tagSupport,
    optional "insertReplaceSupport" .flag,
    optional "resolveSupport" properties,
    optional "insertTextModeSupport" (plain [required "valueSet" (.list signed32)]),
    optional "labelDetailsSupport" .flag]

def completionCapability : Shape :=
  plain [optional "dynamicRegistration" .flag,
    optional "completionItem" completionItemCapability,
    optional "completionItemKind" kinds,
    optional "contextSupport" .flag,
    optional "insertTextMode" signed32,
    optional "completionList" (plain [optional "itemDefaults" texts])]

def hoverCapability : Shape :=
  plain [optional "dynamicRegistration" .flag, optional "contentFormat" (.list markupKind)]

def signatureHelpCapability : Shape :=
  plain [optional "dynamicRegistration" .flag,
    optional "signatureInformation" (plain [
      optional "documentationFormat" (.list markupKind),
      optional "parameterInformation" (flags ["labelOffsetSupport"]),
      optional "activeParameterSupport" .flag]),
    optional "contextSupport" .flag]

def documentSymbolCapability : Shape :=
  plain [optional "dynamicRegistration" .flag, optional "symbolKind" kinds,
    optional "hierarchicalDocumentSymbolSupport" .flag, tagSupport]

def linking : Shape :=
  flags ["dynamicRegistration", "linkSupport"]

def codeActionCapability : Shape :=
  plain [optional "dynamicRegistration" .flag,
    optional "codeActionLiteralSupport"
      (plain [required "codeActionKind" (plain [required "valueSet" texts])]),
    optional "isPreferredSupport" .flag,
    optional "disabledSupport" .flag,
    optional "dataSupport" .flag,
    optional "resolveSupport" properties,
    optional "honorsChangeAnnotations" .flag]

def renameCapability : Shape :=
  plain [optional "dynamicRegistration" .flag, optional "prepareSupport" .flag,
    optional "prepareSupportDefaultBehavior" signed32,
    optional "honorsChangeAnnotations" .flag]

def diagnosticsCapability : Shape :=
  plain [optional "relatedInformation" .flag, tagSupport, optional "versionSupport" .flag,
    optional "codeDescriptionSupport" .flag, optional "dataSupport" .flag]

def foldingRangeCapability : Shape :=
  plain [optional "dynamicRegistration" .flag, optional "rangeLimit" unsigned32,
    optional "lineFoldingOnly" .flag,
    optional "foldingRangeKind"
      (plain [optional "valueSet" (.list (.word ["comment", "imports", "region"]))]),
    optional "foldingRange" (flags ["collapsedText"])]

def semanticTokensCapability : Shape :=
  plain [optional "dynamicRegistration" .flag,
    required "requests" (plain [optional "range" .flag,
      optional "full" (.either .flag (merged [optional "delta" .flag]))]),
    required "tokenTypes" texts,
    required "tokenModifiers" texts,
    required "formats" texts,
    optional "overlappingTokenSupport" .flag,
    optional "multilineTokenSupport" .flag,
    optional "serverCancelSupport" .flag,
    optional "augmentsSyntaxTokens" .flag]

def documentCapability : Shape :=
  plain [
    optional "synchronization"
      (flags ["dynamicRegistration", "willSave", "willSaveWaitUntil", "didSave"]),
    optional "completion" completionCapability,
    optional "hover" hoverCapability,
    optional "signatureHelp" signatureHelpCapability,
    optional "references" registration,
    optional "documentHighlight" registration,
    optional "documentSymbol" documentSymbolCapability,
    optional "formatting" registration,
    optional "rangeFormatting" registration,
    optional "onTypeFormatting" registration,
    optional "declaration" linking,
    optional "definition" linking,
    optional "typeDefinition" linking,
    optional "implementation" linking,
    optional "codeAction" codeActionCapability,
    optional "codeLens" registration,
    optional "documentLink" (flags ["dynamicRegistration", "tooltipSupport"]),
    optional "colorProvider" registration,
    optional "rename" renameCapability,
    optional "publishDiagnostics" diagnosticsCapability,
    optional "foldingRange" foldingRangeCapability,
    optional "selectionRange" registration,
    optional "linkedEditingRange" registration,
    optional "callHierarchy" registration,
    optional "semanticTokens" semanticTokensCapability,
    optional "moniker" registration,
    optional "typeHierarchy" registration,
    optional "inlineValue" registration,
    optional "inlayHint"
      (plain [optional "dynamicRegistration" .flag, optional "resolveSupport" properties]),
    optional "diagnostic" (flags ["dynamicRegistration", "relatedDocumentSupport"])]

/-! ## Window and general -/

def windowCapability : Shape :=
  plain [optional "workDoneProgress" .flag,
    optional "showMessage"
      (plain [optional "messageActionItem" (flags ["additionalPropertiesSupport"])]),
    optional "showDocument" (plain [required "support" .flag])]

def generalCapability : Shape :=
  plain [
    optional "regularExpressions" (plain [required "engine" .text, optional "version" .text]),
    optional "markdown"
      (plain [required "parser" .text, optional "version" .text, optional "allowedTags" texts]),
    optional "staleRequestSupport"
      (plain [required "cancel" .flag, required "retryOnContentModified" texts]),
    optional "positionEncodings" texts]

def capabilities : Shape :=
  plain [optional "workspace" workspaceCapability,
    optional "textDocument" documentCapability,
    optional "window" windowCapability,
    optional "general" generalCapability,
    optional "experimental" .anything]

/-! ## Connecting -/

def workspaceFolder : Shape :=
  plain [required "uri" .uri, required "name" .text]

def connecting : Shape :=
  plain [optional "processId" unsigned32,
    optional "rootPath" .text,
    omittable "rootUri" .uri,
    optional "initializationOptions" .anything,
    required "capabilities" capabilities,
    omittable "trace" (.word ["off", "messages", "verbose"]),
    optional "workspaceFolders" (.list workspaceFolder),
    optional "clientInfo" (plain [required "name" .text, optional "version" .text]),
    optional "locale" .text]

end ConceptScript.Shape
