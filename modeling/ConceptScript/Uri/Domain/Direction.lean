import ConceptScript.Uri.Domain.DirectionTable

/-!
Contract: labels from right to left.

Owns the rule that each label of a name with right-to-left text reads in one direction.

Does not own names without such text, to which the rule does not apply.
-/

set_option autoImplicit false

namespace ConceptScript.Uri

inductive Direction where
  | leftToRight
  | rightToLeft
  | arabicDigit
  | europeanDigit
  /-- Takes the direction of the character before it. -/
  | attached
  | undirected
  deriving DecidableEq, Repr

namespace Direction

def ofChar (c : Char) : Direction :=
  if Text.inRanges rightToLeftCharacters c then .rightToLeft
  else if Text.inRanges arabicDigits c then .arabicDigit
  else if Text.inRanges europeanDigits c then .europeanDigit
  else if Text.inRanges attachedCharacters c then .attached
  else if Text.inRanges undirectedCharacters c then .undirected
  else .leftToRight

/-- Text with such a character has parts from right to left. -/
def turnsText : Direction → Bool
  | .rightToLeft | .arabicDigit => true
  | _ => false

/-- A label from right to left has no left-to-right letters, ends in a letter or digit and does not
mix the two kinds of digits. -/
def fitRightToLeft (directions : List Direction) : Bool :=
  directions.all (· ≠ .leftToRight) &&
    (directions.reverse.dropWhile (· = .attached)).head?.any
      (fun last => last ≠ .undirected) &&
    !(directions.contains .europeanDigit && directions.contains .arabicDigit)

/-- A label from left to right has no right-to-left letters or digits, and ends in a letter or
digit. -/
def fitLeftToRight (directions : List Direction) : Bool :=
  directions.all (fun direction => !direction.turnsText) &&
    (directions.reverse.dropWhile (· = .attached)).head?.any
      (fun last => last ≠ .undirected)

/-- Whether a label reads in one direction. Its first character, a letter, says in which. -/
def fitLabel (directions : List Direction) : Bool :=
  match directions with
  | [] => true
  | .rightToLeft :: _ => fitRightToLeft directions
  | .leftToRight :: _ => fitLeftToRight directions
  | _ :: _ => false

end Direction

/-- Whether the labels of a name read in one direction each, or the name has no right-to-left
text. -/
def directionsFit (labels : List (List Char)) : Bool :=
  let directions := labels.map (·.map Direction.ofChar)
  !directions.any (·.any Direction.turnsText) || directions.all Direction.fitLabel

end ConceptScript.Uri
