import ConceptScript.Uri.Percent
import ConceptScript.Uri.Domain.Direction
import ConceptScript.Uri.Domain.Label

/-!
Contract: names of hosts.

Owns the one spelling of a name, in ASCII, and which names are refused.

Does not own numeric addresses.
-/

set_option autoImplicit false

namespace ConceptScript.Uri

/-- Control characters, the blank and the marks that divide addresses stand in no name. -/
def isForbiddenInDomain (c : Char) : Bool :=
  c.toNat ≤ 0x20 || c.toNat = 0x7F || "%#/:<>?@[\\]^|".toList.contains c

/-- The labels of a name, between its dots. -/
def labelsOf : List Char → List (List Char)
  | [] => [[]]
  | c :: rest =>
    match labelsOf rest with
    | [] => [[c]]
    | label :: labels => if c = '.' then [] :: label :: labels else (c :: label) :: labels

/-- The spelling of a name in ASCII; `none` if the name is refused. -/
def domain? (bytes : List UInt8) : Option (List Char) := do
  let name ← String.fromUTF8? ⟨bytes.toArray⟩
  let images ← name.toList.mapM image?
  let chars := Text.composed images.flatten
  if chars.any isForbiddenInDomain then none
  else
    let labels ← (labelsOf chars).mapM Label.ofChars?
    if directionsFit (labels.map Label.shown) then
      some (['.'].intercalate (labels.map Label.written))
    else none

end ConceptScript.Uri
