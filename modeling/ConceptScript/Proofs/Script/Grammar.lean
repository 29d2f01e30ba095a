import ConceptScript.Script.Parse

/-!
Contract: the grammar of scripts, without a word on how a script is read.

A script is a forest of concepts. A concept is written as a keyword of its type and its members in
order, and ends in a semicolon or in a block with the concepts inside of it.

Owns what the tokens of a member and of a concept are, which of several types is meant, and which
forests are written by which tokens.

Does not own the parser, and says nothing about refused scripts.
-/

set_option autoImplicit false

namespace ConceptScript.Grammar

/-! ## Members -/

/-- Texts with dots between them, and the value they write. -/
inductive Path : List Token → String → Prop where
  | text {token : Token} (isText : token.isText = true) : Path [token] token.value
  | dotted {token dot : Token} {tokens : List Token} {path : String}
      (isText : token.isText = true)
      (isDot : dot.isSpecial "." = true)
      (later : Path tokens path) :
      Path (token :: dot :: tokens) (token.value ++ "." ++ path)

/-- The tokens of a member in front of `after`. A path takes all it can: no dot follows it. -/
inductive Argument : Member.Kind → List Token → String → (after : List Token) → Prop where
  | text {token : Token} {after : List Token} (isText : token.isText = true) :
      Argument .text [token] token.value after
  | reference {tokens after : List Token} {value : String}
      (path : Path tokens value)
      (noDot : ∀ token ∈ after.head?, token.isSpecial "." = false) :
      Argument .reference tokens value after

/-- The tokens of all members, in the order in which they are declared. -/
inductive Arguments :
    List Member → List Token → List String → (after : List Token) → Prop where
  | nil {after : List Token} : Arguments [] [] [] after
  | cons {member : Member} {members : List Member} {tokens more after : List Token}
      {value : String} {values : List String}
      (first : Argument member.kind tokens value (more ++ after))
      (later : Arguments members more values after) :
      Arguments (member :: members) (tokens ++ more) (value :: values) after

/-! ## Concepts -/

/-- The tokens of a concept up to its last member: a keyword of its type, then the members. -/
inductive Written : Concept → (head after : List Token) → Prop where
  | intro {concept : Concept} {keyword : Token} {arguments after : List Token}
      (isText : keyword.isText = true)
      (isKeyword : concept.type.matchesKeyword keyword.value = true)
      (areArguments : Arguments concept.type.members arguments concept.values after) :
      Written concept (keyword :: arguments) after

/-- Every type may stand outside of all blocks, and inside of the parents that it lists. -/
def Allowed (parent : Option ConceptType) (type : ConceptType) : Prop :=
  ∀ enclosing ∈ parent, type.allowedIn enclosing.name = true

/-- A concept that the tokens `head ++ after` can be taken to start with. -/
structure Reading (catalog : Catalog) (parent : Option ConceptType) (concept : Concept)
    (head after : List Token) : Prop where
  known : concept.type ∈ catalog.types
  allowed : Allowed parent concept.type
  written : Written concept head after

/-- The concept that the tokens `head ++ after` start with: of all types it is the single one that
takes the most of them. -/
structure Chosen (catalog : Catalog) (parent : Option ConceptType) (concept : Concept)
    (head after : List Token) : Prop extends Reading catalog parent concept head after where
  longest : ∀ (other : Concept) (otherHead otherAfter : List Token),
    Reading catalog parent other otherHead otherAfter →
    otherHead ++ otherAfter = head ++ after →
    other.type ≠ concept.type →
    otherHead.length < head.length

/-! ## Scripts -/

/-- Concepts next to each other, with those inside of their blocks and all of their tokens. -/
inductive Forest where
  | nil
  /-- A concept that ends in a mark, and those behind it. -/
  | plain (concept : Concept) (head : List Token) (mark : Token) (later : Forest)
  /-- A concept with a block, and those behind it. -/
  | block (concept : Concept) (head : List Token) (opening : Token) (inner : Forest)
      (closing : Token) (later : Forest)

namespace Forest

/-- All tokens, each one once and in their order. -/
def tokens : Forest → List Token
  | nil => []
  | plain _ head mark later => head ++ mark :: later.tokens
  | block _ head opening inner closing later =>
    head ++ opening :: (inner.tokens ++ closing :: later.tokens)

/-- All concepts; each one stands in front of those inside of its block. -/
def concepts : Forest → List Concept
  | nil => []
  | plain concept _ _ later => concept :: later.concepts
  | block concept _ _ inner _ later => concept :: (inner.concepts ++ later.concepts)

/-- The forest is written by its tokens, inside of the parent and in front of `after`. -/
def Derived (catalog : Catalog) (parent : Option ConceptType) :
    Forest → (after : List Token) → Prop
  | nil, _ => True
  | plain concept head mark later, after =>
    Chosen catalog parent concept head (mark :: (later.tokens ++ after)) ∧
      mark.isSpecial ";" = true ∧
      later.Derived catalog parent after
  | block concept head opening inner closing later, after =>
    Chosen catalog parent concept head
        (opening :: (inner.tokens ++ closing :: (later.tokens ++ after))) ∧
      opening.isSpecial "\x7b" = true ∧
      inner.Derived catalog (some concept.type) (closing :: (later.tokens ++ after)) ∧
      closing.isSpecial "\x7d" = true ∧
      later.Derived catalog parent after

end Forest

end ConceptScript.Grammar
