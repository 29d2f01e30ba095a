import ConceptScript.Token.Lexeme

/-!
Contract: all tokens of a text.

Owns skipping blanks, byte offsets of tokens, stopping at the first fault, and the split into
tokens and comments.

Does not own what a lexeme is.
-/

set_option autoImplicit false

namespace ConceptScript

/-- The tokens in front of the first fault, comments included, and that fault. -/
structure Scan where
  raw : List Token
  fault : Option Fault
  deriving DecidableEq, Repr

namespace Scan

def ofCharsFrom (offset : Nat) (chars : List Char) : Scan :=
  let start := offset + Text.byteSize (chars.takeWhile Text.isBlank)
  match _found : Lexeme.read (chars.dropWhile Text.isBlank) with
  | none => ⟨[], none⟩
  | some (.error cause) => ⟨[], some ⟨cause, start⟩⟩
  | some (.ok (lexeme, after)) =>
    let stop := start + Text.byteSize lexeme.spelling
    let later := ofCharsFrom stop after
    ⟨⟨lexeme.kind, String.ofList lexeme.value, start, stop⟩ :: later.raw, later.fault⟩
termination_by chars.length
decreasing_by
  have shorter := Lexeme.read_shorter _found
  have dropped : (chars.dropWhile Text.isBlank).length ≤ chars.length :=
    (List.dropWhile_sublist Text.isBlank).length_le
  omega

def ofChars (chars : List Char) : Scan :=
  ofCharsFrom 0 chars

/-- What the parser sees: everything but comments. -/
def tokens (scan : Scan) : List Token :=
  scan.raw.filter fun token => !token.isComment

def comments (scan : Scan) : List Token :=
  scan.raw.filter Token.isComment

end Scan

end ConceptScript
