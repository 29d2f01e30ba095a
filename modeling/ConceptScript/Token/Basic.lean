/-!
Contract: the tokens of a script.

Owns token kinds, spans in bytes and the questions asked about a single token.

Does not own how tokens are found in text.
-/

set_option autoImplicit false

namespace ConceptScript

inductive Token.Kind where
  | identifier
  | stringLiteral
  | special
  | comment
  deriving DecidableEq, Repr

/-- A token with the bytes `[start, stop)` it covers. The value of a string literal is without its
quotes and that of a comment without its two slashes. -/
structure Token where
  kind : Token.Kind
  value : String
  start : Nat
  stop : Nat
  deriving DecidableEq, Repr

namespace Token

def length (token : Token) : Nat :=
  token.stop - token.start

def isEmpty (token : Token) : Bool :=
  token.length == 0

/-- Names and quoted text are interchangeable wherever text is read. -/
def isText (token : Token) : Bool :=
  token.kind = .identifier || token.kind = .stringLiteral

def isComment (token : Token) : Bool :=
  token.kind = .comment

def isSpecial (token : Token) (mark : String) : Bool :=
  token.kind = .special && token.value = mark

/-- The offset lies on the token or directly behind it. -/
def touches (token : Token) (offset : Nat) : Bool :=
  token.start ≤ offset && offset ≤ token.stop

/-- The offset lies on the token. -/
def covers (token : Token) (offset : Nat) : Bool :=
  token.start ≤ offset && offset < token.stop

/-- How a token is shown to a reader. -/
def display (token : Token) : String :=
  match token.kind with
  | .stringLiteral => "\"" ++ token.value ++ "\""
  | .comment => "//" ++ token.value
  | .identifier | .special => token.value

end Token

end ConceptScript
