import ConceptScript.Uri.Domain.ImageTable

/-!
Contract: the characters of domain names.

Owns how a character is written in a name. Letters of both cases, wide and narrow forms and the like
are written alike, so that each name has one spelling.

Does not own characters that are refused only because they divide addresses.
-/

set_option autoImplicit false

namespace ConceptScript.Uri

/-- The image of a character in one of the runs. -/
def runImage? (c : Char) : Option (List Char) :=
  imageRuns.findSome? fun
    | [first, last, step, image] =>
      if first ≤ c.toNat ∧ c.toNat ≤ last ∧ (c.toNat - first) % step = 0 then
        some [Char.ofNat (image + (c.toNat - first))]
      else none
    | _ => none

/-- How a character is written in a name; `none` if no name may hold it. -/
def image? (c : Char) : Option (List Char) :=
  if Text.inRanges refusedCharacters c then none
  else if Text.inRanges leftOutCharacters c then some []
  else some (((runImage? c).orElse fun _ => Text.rowOf? imageRows c).getD [c])

/-- Whether a character is written as itself. -/
def isOwnImage (c : Char) : Bool :=
  image? c = some [c]

end ConceptScript.Uri
