import ConceptScript.Editor.SignatureHelp
import ConceptScript.Proofs.Catalog.Validation
import ConceptScript.Proofs.Text.Utf16

/-!
Contract: where the members of a type stand in the text of its signature.

The label of a member is looked for behind the label in front of it. It begins with a mark that no
keyword has, and only a separator lies in between. So the first place at which it is found is its
own, even where the name of one member holds the label of another. The places are sent with 32 bits,
which is enough for all of them exactly where it is enough for the length of the signature.

Owns the text of a signature as keyword, separators and labels, and the units of each label in it.

Does not own which signatures are shown.
-/

set_option autoImplicit false

namespace ConceptScript

/-! ## The text of a signature -/

namespace SignatureHelp

/-- The place that a label names, as an editor reads it. -/
def Label.place? : Label → Option (Nat × Nat)
  | .span start stop => some (start.toNat, stop.toNat)
  | .text _ => none

end SignatureHelp

end ConceptScript
