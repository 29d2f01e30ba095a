import ConceptScript.Uri.Domain.Image
import ConceptScript.Uri.Domain.Joining
import ConceptScript.Uri.Domain.Punycode

/-!
Contract: labels of domain names.

Owns the two forms of a label: its characters, and how it is written in ASCII.

Does not own what the labels of a name have to do with each other.
-/

set_option autoImplicit false

namespace ConceptScript.Uri

structure Label where
  /-- What a reader sees. -/
  shown : List Char
  /-- How it is written. -/
  written : List Char
  deriving DecidableEq, Repr

namespace Label

/-- The start of a label that is written in ASCII and shown with other characters. -/
def sign : List Char := "xn--".toList

def isAscii (chars : List Char) : Bool :=
  chars.all fun c => c.toNat < 0x80

/-- A label does not start with a mark, its characters are their own images, and its joiners stand
in their places. -/
def isFit (chars : List Char) : Bool :=
  !chars.head?.any (Text.inRanges markCharacters) && chars.all isOwnImage && joinersFit [] chars

/-- A label in ASCII behind the sign. What it shows is composed, and needs the sign. -/
def ofEncoded? (encoded : List Char) : Option Label := do
  let shown ← if isAscii encoded then Punycode.decode? encoded else none
  if !isAscii shown && Text.composed shown = shown && isFit shown then
    some ⟨shown, sign ++ encoded⟩
  else none

/-- A label of characters that are composed and their own images. -/
def ofChars? (chars : List Char) : Option Label :=
  if sign.isPrefixOf chars then ofEncoded? (chars.drop sign.length)
  else if isAscii chars then some ⟨chars, chars⟩
  else if isFit chars then some ⟨chars, sign ++ Punycode.encode chars⟩
  else none

end Label

end ConceptScript.Uri
