import ConceptScript.Server.Shape

/-!
Contract: the values that many messages have in common.

Owns the shapes of places, documents, edits, commands and diagnostics.

Does not own the parameters of methods.
-/

set_option autoImplicit false

namespace ConceptScript.Shape

abbrev Field := String × Presence × Shape

def required (key : String) (shape : Shape) : Field :=
  (key, .required, shape)

def optional (key : String) (shape : Shape) : Field :=
  (key, .optional, shape)

def omittable (key : String) (shape : Shape) : Field :=
  (key, .omittable, shape)

/-- A record that may also be given as an array. -/
def plain (fields : List Field) : Shape :=
  .record true fields

/-- A record that is put together from several, which is given by names only. -/
def merged (fields : List Field) : Shape :=
  .record false fields

/-- A record whose fields are flags that may be missing. -/
def flags (keys : List String) : Shape :=
  plain (keys.map fun key => optional key .flag)

/-! ## Numbers and words -/

def unsigned32 : Shape :=
  .integer 0 4294967295

def signed32 : Shape :=
  .integer (-2147483648) 2147483647

def numberOrText : Shape :=
  .either signed32 .text

def markupKind : Shape :=
  .word ["plaintext", "markdown"]

def texts : Shape :=
  .list .text

/-! ## Places -/

def position : Shape :=
  plain [required "line" unsigned32, required "character" unsigned32]

def range : Shape :=
  plain [required "start" position, required "end" position]

def location : Shape :=
  plain [required "uri" .uri, required "range" range]

/-! ## Documents -/

def document : Shape :=
  plain [required "uri" .uri]

def versionedDocument : Shape :=
  plain [required "uri" .uri, required "version" signed32]

def optionallyVersionedDocument : Shape :=
  plain [required "uri" .uri, optional "version" signed32]

def documentContent : Shape :=
  plain [required "uri" .uri, required "languageId" .text, required "version" signed32,
    required "text" .text]

/-- A change may name a range and its length. -/
def contentChange : Shape :=
  plain [optional "range" range, optional "rangeLength" unsigned32, required "text" .text]

def inDocument : Field :=
  required "textDocument" document

/-- A document and a position in it. -/
def atPlace : List Field :=
  [inDocument, required "position" position]

/-! ## Progress -/

def progress : List Field :=
  [optional "workDoneToken" numberOrText]

/-- Progress that may come with results in parts. -/
def partialProgress : List Field :=
  progress ++ [optional "partialResultToken" numberOrText]

/-! ## Texts with markup -/

def markup : Shape :=
  plain [required "kind" markupKind, required "value" .text]

def documentation : Shape :=
  .either .text markup

/-! ## Edits -/

def textEditFields : List Field :=
  [required "range" range, required "newText" .text]

def textEdit : Shape :=
  plain textEditFields

def annotatedTextEdit : Shape :=
  merged (textEditFields ++ [required "annotationId" .text])

def documentEdit : Shape :=
  plain [required "textDocument" optionallyVersionedDocument,
    required "edits" (.list (.either textEdit annotatedTextEdit))]

def createFile : Shape :=
  plain [required "kind" (.word ["create"]), required "uri" .uri,
    optional "options" (flags ["overwrite", "ignoreIfExists"]), optional "annotationId" .text]

def renameFile : Shape :=
  plain [required "kind" (.word ["rename"]), required "oldUri" .uri, required "newUri" .uri,
    optional "options" (flags ["overwrite", "ignoreIfExists"]), optional "annotationId" .text]

def deleteFile : Shape :=
  plain [required "kind" (.word ["delete"]), required "uri" .uri,
    optional "options" (plain [optional "recursive" .flag, optional "ignoreIfNotExists" .flag,
      optional "annotationId" .text])]

def fileOperation : Shape :=
  .either createFile (.either renameFile deleteFile)

def changeAnnotation : Shape :=
  plain [required "label" .text, optional "needsConfirmation" .flag, optional "description" .text]

def workspaceEdit : Shape :=
  plain [omittable "changes" (.uriTable (.list textEdit)),
    optional "documentChanges"
      (.either (.list documentEdit) (.list (.either fileOperation documentEdit))),
    optional "changeAnnotations" (.table changeAnnotation)]

/-! ## Commands and diagnostics -/

def command : Shape :=
  plain [required "title" .text, required "command" .text, optional "arguments" (.list .anything)]

def diagnostic : Shape :=
  plain [required "range" range, optional "severity" signed32, optional "code" numberOrText,
    optional "codeDescription" (plain [required "href" .uri]), optional "source" .text,
    required "message" .text,
    optional "relatedInformation"
      (.list (plain [required "location" location, required "message" .text])),
    optional "tags" (.list signed32), optional "data" .anything]

end ConceptScript.Shape
