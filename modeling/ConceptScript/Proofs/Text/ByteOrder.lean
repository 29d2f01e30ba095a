import Mathlib.Data.String.Basic
import Mathlib.Tactic.SplitIfs

/-!
Contract: texts are ordered as their bytes are.

In UTF-8 a code point is written in base 64. The first byte is raised by a mark, which is higher
where more bytes follow, and the bytes behind it are all raised by the same amount. So of two
characters, the one with the higher code point has the higher byte where their bytes first differ.

Owns the bytes of a text, and that their order is the order of the characters.

Does not own what is sorted by it.
-/

set_option autoImplicit false

namespace ConceptScript.Text

/-! ## The bytes of a character -/

/-- A number in base 64, with a mark on the first byte and the given number of bytes behind it. -/
def sextets (mark : Nat) : Nat → Nat → List UInt8
  | 0, value => [UInt8.ofNat (mark + value)]
  | more + 1, value => sextets mark more (value / 64) ++ [UInt8.ofNat (value % 64 + 128)]

theorem sextets_eq_cons (mark more value : Nat) :
    ∃ trail, sextets mark more value = UInt8.ofNat (mark + value / 64 ^ more) :: trail := by
  induction more generalizing value with
  | zero => exact ⟨[], by rw [sextets, Nat.pow_zero, Nat.div_one]⟩
  | succ more inductionHypothesis =>
    obtain ⟨trail, isSextets⟩ := inductionHypothesis (value / 64)
    refine ⟨trail ++ [UInt8.ofNat (value % 64 + 128)], ?_⟩
    rw [sextets, isSextets, List.cons_append, Nat.div_div_eq_div_mul, Nat.pow_succ']

theorem ofNat_lt_ofNat
    {lower upper : Nat}
    (isLess : lower < upper)
    (fits : upper < 256) :
    UInt8.ofNat lower < UInt8.ofNat upper := by
  rw [UInt8.lt_iff_toNat_lt, UInt8.toNat_ofNat', UInt8.toNat_ofNat']
  omega

/-- A lower first byte decides. -/
theorem sextets_append_lt_of_first
    {lowerMark lowerMore lower upperMark upperMore upper : Nat}
    (isLess : lowerMark + lower / 64 ^ lowerMore < upperMark + upper / 64 ^ upperMore)
    (fits : upperMark + upper / 64 ^ upperMore < 256) (left right : List UInt8) :
    sextets lowerMark lowerMore lower ++ left < sextets upperMark upperMore upper ++ right := by
  obtain ⟨lowerTrail, isLower⟩ := sextets_eq_cons lowerMark lowerMore lower
  obtain ⟨upperTrail, isUpper⟩ := sextets_eq_cons upperMark upperMore upper
  rw [isLower, isUpper, List.cons_append, List.cons_append, List.cons_lt_cons_iff]
  exact .inl (ofNat_lt_ofNat isLess fits)

/-- With the same number of bytes, the lower number comes first. -/
theorem sextets_append_lt
    {mark more lower upper : Nat}
    (isLess : lower < upper)
    (fits : mark + upper / 64 ^ more < 256) (left right : List UInt8) :
    sextets mark more lower ++ left < sextets mark more upper ++ right := by
  induction more generalizing lower upper left right with
  | zero =>
    apply sextets_append_lt_of_first _ fits
    omega
  | succ more inductionHypothesis =>
    rw [Nat.pow_succ', ← Nat.div_div_eq_div_mul] at fits
    rw [sextets, sextets, List.append_assoc, List.append_assoc]
    by_cases isHigher : lower / 64 < upper / 64
    · exact inductionHypothesis isHigher fits _ _
    · -- The two numbers differ in the last byte only.
      have sameFront : lower / 64 = upper / 64 := by omega
      rw [sameFront]
      apply List.append_left_lt
      rw [List.singleton_append, List.singleton_append, List.cons_lt_cons_iff]
      exact .inl (ofNat_lt_ofNat (by omega) (by omega))

/-- The mark on the first byte of a code point, and the number of bytes behind it. -/
def lead (value : Nat) : Nat × Nat :=
  if value ≤ 0x7F then (0, 0)
  else if value ≤ 0x7FF then (0xC0, 1)
  else if value ≤ 0xFFFF then (0xE0, 2)
  else (0xF0, 3)

/-- A higher code point has the same lead, or a higher first byte. -/
theorem lead_cases
    {lower upper : Nat}
    (isLess : lower < upper) :
    lead lower = lead upper ∨
      (lead lower).1 + lower / 64 ^ (lead lower).2 <
        (lead upper).1 + upper / 64 ^ (lead upper).2 := by
  unfold lead
  split_ifs <;> simp <;> omega

theorem lead_fits
    {value : Nat}
    (isCode : value < 0x110000) :
    (lead value).1 + value / 64 ^ (lead value).2 < 256 := by
  unfold lead
  split_ifs <;> simp <;> omega

theorem toNat_lt (c : Char) : c.toNat < 0x110000 := by
  have isValid : c.toNat < 0xD800 ∨ 0xDFFF < c.toNat ∧ c.toNat < 0x110000 := c.valid
  omega

theorem utf8EncodeChar_eq_sextets (c : Char) :
    String.utf8EncodeChar c = sextets (lead c.toNat).1 (lead c.toNat).2 c.toNat := by
  have bounded := toNat_lt c
  have isValue : c.val.toNat = c.toNat := rfl
  unfold String.utf8EncodeChar lead
  simp only [isValue]
  generalize c.toNat = value at bounded ⊢
  split_ifs with one two three <;>
    simp only [sextets, List.cons_append, List.nil_append, Nat.zero_add]
  · have isFirst : value / 64 % 32 + 192 = 0xC0 + value / 64 := by omega
    rw [isFirst]
  · have isFirst : value / 4096 % 16 + 224 = 0xE0 + value / 64 / 64 := by omega
    rw [isFirst]
  · have isFirst : value / 262144 % 8 + 240 = 0xF0 + value / 64 / 64 / 64 := by omega
    have isSecond : value / 4096 % 64 = value / 64 / 64 % 64 := by omega
    rw [isFirst, isSecond]

/-- Whatever stands behind two characters, the order of their bytes is that of the characters. -/
theorem utf8EncodeChar_append_lt
    {c d : Char}
    (isLess : c < d) (left right : List UInt8) :
    String.utf8EncodeChar c ++ left < String.utf8EncodeChar d ++ right := by
  have isLower : c.toNat < d.toNat := isLess
  have fits := lead_fits (toNat_lt d)
  rw [utf8EncodeChar_eq_sextets, utf8EncodeChar_eq_sextets]
  rcases lead_cases isLower with sameLead | lowerFirst
  · rw [sameLead]
    exact sextets_append_lt isLower fits left right
  · exact sextets_append_lt_of_first lowerFirst fits left right

/-! ## The bytes of a text -/

/-- The bytes of a text in UTF-8. -/
def bytes (text : String) : List UInt8 :=
  text.toUTF8.data.toList

theorem bytes_eq_flatMap (text : String) :
    bytes text = text.toList.flatMap String.utf8EncodeChar := by
  have isEncoded : text.toUTF8 = (text.toList.flatMap String.utf8EncodeChar).toByteArray :=
    String.utf8Encode_toList.symm
  rw [bytes, isEncoded, List.toList_data_toByteArray]

theorem flatMap_utf8EncodeChar_lt
    {left right : List Char}
    (isLess : left < right) :
    left.flatMap String.utf8EncodeChar < right.flatMap String.utf8EncodeChar := by
  induction left generalizing right with
  | nil =>
    cases right with
    | nil => exact absurd isLess (List.lt_irrefl _)
    | cons d right =>
      obtain ⟨trail, isSextets⟩ := sextets_eq_cons (lead d.toNat).1 (lead d.toNat).2 d.toNat
      rw [List.flatMap_cons, utf8EncodeChar_eq_sextets, isSextets]
      exact List.nil_lt_cons _ _
  | cons c left inductionHypothesis =>
    cases right with
    | nil => exact absurd isLess (List.not_lt_nil _)
    | cons d right =>
      rw [List.flatMap_cons, List.flatMap_cons]
      rcases List.cons_lt_cons_iff.1 isLess with isLower | ⟨rfl, laterLess⟩
      · exact utf8EncodeChar_append_lt isLower _ _
      · exact List.append_left_lt (inductionHypothesis laterLess)

/-- Texts are ordered by their characters as they are by their bytes. -/
theorem bytes_lt_iff (left right : String) : bytes left < bytes right ↔ left < right := by
  rw [bytes_eq_flatMap, bytes_eq_flatMap, String.lt_iff_toList_lt]
  refine ⟨fun bytesLess => ?_, flatMap_utf8EncodeChar_lt⟩
  rcases lt_trichotomy left.toList right.toList with isLess | isSame | isGreater
  · exact isLess
  · rw [isSame] at bytesLess
    exact absurd bytesLess (List.lt_irrefl _)
  · exact absurd bytesLess (List.lt_asymm (flatMap_utf8EncodeChar_lt isGreater))

end ConceptScript.Text
