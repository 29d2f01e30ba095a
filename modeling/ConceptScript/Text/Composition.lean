import ConceptScript.Text.CompositionTable

/-!
Contract: the composed form of a text.

Owns the parts of a character, the order of combining characters and their composition. Two texts
that differ only in how their characters are composed have the same composed form.

Does not own texts that only look alike.
-/

set_option autoImplicit false

namespace ConceptScript.Text

/-- The class of a combining character. Characters that do not combine have class zero. -/
def combiningClass (c : Char) : Nat :=
  if c.toNat < 0x300 then 0
  else
    (combiningClasses.findSome? fun
      | [first, last, combining] =>
        if first ≤ c.toNat ∧ c.toNat ≤ last then some combining else none
      | _ => none).getD 0

/-! ## Korean syllables

A syllable has a lead, a vowel and perhaps a tail. The syllables stand in the order of their parts,
so that the parts follow from the place of a syllable. -/

namespace Syllable

def first : Nat := 0xAC00

def firstLead : Nat := 0x1100

def firstVowel : Nat := 0x1161

/-- The code point before the first tail: no tail at all. -/
def noTail : Nat := 0x11A7

def leads : Nat := 19

def vowels : Nat := 21

/-- The number of tails, with the missing one. -/
def tails : Nat := 28

/-- The place of a syllable among all of them. -/
def place? (c : Char) : Option Nat :=
  if first ≤ c.toNat ∧ c.toNat < first + leads * vowels * tails then some (c.toNat - first)
  else none

def parts (place : Nat) : List Char :=
  let lead := Char.ofNat (firstLead + place / (vowels * tails))
  let vowel := Char.ofNat (firstVowel + place % (vowels * tails) / tails)
  let tail := if place % tails = 0 then [] else [Char.ofNat (noTail + place % tails)]
  lead :: vowel :: tail

/-- A lead and a vowel, or a syllable without a tail and a tail. -/
def join? (left right : Char) : Option Char :=
  match place? left with
  | some place =>
    if place % tails = 0 ∧ noTail < right.toNat ∧ right.toNat < noTail + tails then
      some (Char.ofNat (left.toNat + (right.toNat - noTail)))
    else none
  | none =>
    if firstLead ≤ left.toNat ∧ left.toNat < firstLead + leads ∧
        firstVowel ≤ right.toNat ∧ right.toNat < firstVowel + vowels then
      let place := (left.toNat - firstLead) * vowels + (right.toNat - firstVowel)
      some (Char.ofNat (first + place * tails))
    else none

end Syllable

/-! ## Parts of characters -/

/-- The parts of a character, none of which has parts of its own. -/
def partsOf (c : Char) : List Char :=
  if c.toNat < 0xC0 then [c]
  else
    match Syllable.place? c with
    | some place => Syllable.parts place
    | none => ((rowOf? compositions c).orElse fun _ => rowOf? replacements c).getD [c]

/-- The character that is composed of two others. -/
def join? (left right : Char) : Option Char :=
  (Syllable.join? left right).orElse fun _ =>
    let parts := (partsOf left ++ [right]).map Char.toNat
    compositions.findSome? fun
      | code :: image => if image = parts then some (Char.ofNat code) else none
      | [] => none

/-- Puts a character behind a text in reverse order. A combining character goes before those of
greater classes that end the text. -/
def attach (c : Char) : List Char → List Char
  | [] => [c]
  | last :: rest =>
    if 0 < combiningClass c ∧ combiningClass c < combiningClass last then last :: attach c rest
    else c :: last :: rest

/-- The parts of all characters, with combining characters in the order of their classes. -/
def decomposed (chars : List Char) : List Char :=
  ((chars.flatMap partsOf).foldl (fun text c => attach c text) []).reverse

/-! ## Composition -/

/-- A text of which a part is composed. -/
structure Composition where
  /-- What can no longer change, in reverse order. -/
  done : List Char
  /-- The character that may still be joined with later ones. -/
  open? : Option Char
  /-- The combining characters behind it that it was not joined with, in reverse order. -/
  marks : List Char

namespace Composition

def start : Composition := ⟨[], none, []⟩

/-- The text so far, in reverse order. -/
def text (composition : Composition) : List Char :=
  composition.marks ++ composition.open?.toList ++ composition.done

/-- A character that stands behind a mark of the same or a greater class is kept apart from the
character before the marks. -/
def reaches (composition : Composition) (c : Char) : Bool :=
  composition.marks.head?.all fun mark => combiningClass mark < combiningClass c

def next (composition : Composition) (c : Char) : Composition :=
  let joined? := do
    let left ← composition.open?
    if composition.reaches c then join? left c else none
  match joined? with
  | some joined => { composition with open? := some joined }
  | none =>
    if combiningClass c = 0 then ⟨composition.text, some c, []⟩
    else { composition with marks := c :: composition.marks }

end Composition

/-- The composed form of a text. -/
def composed (chars : List Char) : List Char :=
  ((decomposed chars).foldl Composition.next .start).text.reverse

end ConceptScript.Text
