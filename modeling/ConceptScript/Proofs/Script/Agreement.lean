import ConceptScript.Proofs.Script.Boundary

/-!
Contract: two parses that end in the same way.

Two readings of a concept, or two parses, may differ in the tokens they are given or in the catalog
they go by. They agree if both succeed with results that belong together, or if both are refused at
offsets that do.

Owns agreement, and that the choice between attempts agrees where the attempts do: the longest
readings are as many as the choice can tell, and the furthest faults lie at offsets that belong
together.

Does not own why attempts agree.
-/

set_option autoImplicit false

namespace ConceptScript.Parse

/-- Both succeed with results that belong together, or both are refused at offsets that do. -/
inductive Agrees {α β : Type} (same : Nat → Nat → Prop) (together : α → β → Prop) :
    Except Fault α → Except Fault β → Prop where
  | ok {value : α} {other : β} (areTogether : together value other) :
      Agrees same together (.ok value) (.ok other)
  | error {fault other : Fault} (sameOffset : same fault.offset other.offset) :
      Agrees same together (.error fault) (.error other)

namespace Agrees

variable {α β γ : Type} {same : Nat → Nat → Prop}

theorem eq_ok
    {value : α} {other : Except Fault α}
    (agrees : Agrees same Eq (.ok value) other) :
    other = .ok value := by
  cases agrees with
  | ok isEqual => rw [isEqual]

theorem exists_ok
    {together : α → β → Prop} {value : α} {other : Except Fault β}
    (agrees : Agrees same together (.ok value) other) :
    ∃ otherValue, other = .ok otherValue ∧ together value otherValue := by
  cases agrees with
  | ok areTogether => exact ⟨_, rfl, areTogether⟩

theorem exists_error
    {together : α → β → Prop} {fault : Fault} {other : Except Fault β}
    (agrees : Agrees same together (.error fault) other) :
    ∃ otherFault, other = .error otherFault ∧ same fault.offset otherFault.offset := by
  cases agrees with
  | error sameOffset => exact ⟨_, rfl, sameOffset⟩

theorem map
    {result other : Except Fault α}
    (agrees : Agrees same Eq result other) (change : α → γ) :
    Agrees same Eq (result.map change) (other.map change) := by
  cases agrees with
  | ok isEqual => exact .ok (congrArg change isEqual)
  | error sameOffset => exact .error sameOffset

end Agrees

/-- As far as a choice can tell two lists apart: they have no element, or one each and these belong
together, or several. -/
inductive SameChoice {α β : Type} (together : α → β → Prop) : List α → List β → Prop where
  | none : SameChoice together [] []
  | single {value : α} {other : β} (areTogether : together value other) :
      SameChoice together [value] [other]
  | several {first second : α} {later : List α} {otherFirst otherSecond : β}
      {otherLater : List β} :
      SameChoice together (first :: second :: later) (otherFirst :: otherSecond :: otherLater)

section Choice

variable {same : Nat → Nat → Prop} {together : Concept × Reader → Concept × Reader → Prop}

/-- Where every fault has a partner on the other side, so have the furthest ones, if the offsets
that belong together come in the same order. -/
theorem furthest_agrees
    {faults others : List Fault}
    (keepsOrder : ∀ {first second third fourth : Nat}, same first second → same third fourth →
      first ≤ third → second ≤ fourth)
    (hasPartner : ∀ fault ∈ faults, ∃ other ∈ others, same fault.offset other.offset)
    (isPartner : ∀ other ∈ others, ∃ fault ∈ faults, same fault.offset other.offset) :
    Option.Rel (fun fault other => same fault.offset other.offset)
      (furthest faults) (furthest others) := by
  cases isFurthest : furthest faults with
  | none =>
    cases isOther : furthest others with
    | none => exact .none
    | some other =>
      obtain ⟨fault, isFault, -⟩ := isPartner other (mem_of_furthest isOther)
      obtain ⟨found, isFound, -⟩ := le_furthest isFault
      cases isFurthest.symm.trans isFound
  | some fault =>
    obtain ⟨partner, partnerMember, isSame⟩ := hasPartner fault (mem_of_furthest isFurthest)
    obtain ⟨other, isOther, partnerBefore⟩ := le_furthest partnerMember
    obtain ⟨back, backMember, backSame⟩ := isPartner other (mem_of_furthest isOther)
    obtain ⟨found, isFound, backBefore⟩ := le_furthest backMember
    obtain rfl := Option.some.inj (isFurthest.symm.trans isFound)
    have otherBefore : other.offset ≤ partner.offset := keepsOrder backSame isSame backBefore
    have sameOffset : partner.offset = other.offset := by omega
    rw [isOther]
    exact .some (sameOffset ▸ isSame)

/-- A choice looks at nothing but how many longest readings there are and at the furthest fault. -/
theorem choose_agrees
    {left right : Catalog} {stack : List Concept} {keyword other : Token}
    {attempts others : List Attempt}
    (sameStart : same keyword.start other.start)
    (sameKnown : (left.typesFor keyword.value).isEmpty = (right.typesFor other.value).isEmpty)
    (sameLongest : SameChoice together (longest (readings attempts)) (longest (readings others)))
    (sameFurthest : Option.Rel (fun fault other => same fault.offset other.offset)
      (furthest (faults attempts)) (furthest (faults others))) :
    Agrees same together (choose left stack keyword attempts)
      (choose right stack other others) := by
  unfold choose
  generalize longest (readings attempts) = found at sameLongest
  generalize longest (readings others) = otherFound at sameLongest
  generalize furthest (faults attempts) = fault at sameFurthest
  generalize furthest (faults others) = otherFault at sameFurthest
  cases sameLongest with
  | single areTogether => exact .ok areTogether
  | several => exact .error sameStart
  | none =>
    rw [sameKnown]
    dsimp only
    split
    · exact .error sameStart
    · cases sameFurthest with
      | none => exact .error sameStart
      | some sameOffset => exact .error sameOffset

end Choice

end ConceptScript.Parse
