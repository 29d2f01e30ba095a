import ConceptScript.Text.Composition
import ConceptScript.Uri.Domain.JoiningTable

/-!
Contract: joiners in labels.

Owns where the two characters without a width that join or part their neighbours may stand: only
where they change how the text looks.

Does not own the other characters of a label.
-/

set_option autoImplicit false

namespace ConceptScript.Uri

def joiner : Char := '\u200d'

def nonJoiner : Char := '\u200c'

/-- A sign that takes the vowel from the consonant before it. A joiner may stand behind it. -/
def isVowelKiller (c : Char) : Bool :=
  Text.combiningClass c = 9

/-- Whether the nearest character that is not joined through has the property. -/
def nearestJoins (joins : List (List Nat)) (chars : List Char) : Bool :=
  match chars.dropWhile (Text.inRanges joinedThrough) with
  | [] => false
  | c :: _ => Text.inRanges joins c

/-- Whether a character is no joiner or may stand where it does: behind `before`, which is in
reverse order, and before `after`. -/
def mayStandBetween (before : List Char) (c : Char) (after : List Char) : Bool :=
  if c = joiner then before.head?.any isVowelKiller
  else if c = nonJoiner then
    before.head?.any isVowelKiller ||
      (nearestJoins joiningNext before && nearestJoins joiningPrevious after)
  else true

/-- Whether all joiners of a label may stand where they do, behind `before`. -/
def joinersFit (before : List Char) : List Char → Bool
  | [] => true
  | c :: rest => mayStandBetween before c rest && joinersFit (c :: before) rest

end ConceptScript.Uri
