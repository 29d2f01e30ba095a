import ConceptScript.Document

/-!
Contract: the keywords that may be typed at a position.

Owns when keywords are offered at all, and their order.

Does not own how an editor shows them.
-/

set_option autoImplicit false

namespace ConceptScript

/-- Inserts into a strictly ascending list, which it stays. -/
def insertAscending (word : String) : List String → List String
  | [] => [word]
  | head :: later =>
    if word < head then word :: head :: later
    else if word = head then head :: later
    else head :: insertAscending word later

/-- The words in ascending order, each one once. -/
def ascending (words : List String) : List String :=
  words.foldr insertAscending []

/-- Whether a keyword may be typed: not in a comment, and not behind the keyword of a concept, where
its members are typed. -/
def Analysis.offersKeywords (analysis : Analysis) (position : Position) : Bool :=
  !analysis.insideComment &&
    analysis.cursor.keyword.all fun keyword => analysis.typedAt? position = some keyword

/-- The keywords of all types that may stand at the position. -/
def Analysis.completions (catalog : Catalog) (analysis : Analysis) (position : Position) :
    List String :=
  if analysis.offersKeywords position then
    let parent := analysis.cursor.context.head?.map Concept.typeName
    ascending ((catalog.childTypes parent).filterMap ConceptType.keyword)
  else
    []

def Document.completions (context : Context) (document : Document) (position : Position) :
    List String × Document :=
  match context.catalog with
  | none => ([], document)
  | some catalog =>
    let (analysis, document) := document.analyse context (some position)
    (analysis.completions catalog position, document)

/-- A completion with the signatures that its keyword introduces. -/
structure Completion where
  keyword : String
  detail : Option String
  deriving DecidableEq, Repr

def Completion.ofKeyword (catalog : Catalog) (keyword : String) : Completion :=
  let detail := "\n".intercalate ((catalog.typesFor keyword).map ConceptType.signature)
  ⟨keyword, if detail.isEmpty then none else some detail⟩

/-- Completions at a position whose column counts UTF-16 units. -/
def Document.completionsAt (context : Context) (document : Document) (position : Position) :
    List Completion × Document :=
  let (keywords, document) := document.completions context (document.text.ofUtf16 position)
  match context.catalog with
  | none => ([], document)
  | some catalog => (keywords.map (.ofKeyword catalog), document)

end ConceptScript
