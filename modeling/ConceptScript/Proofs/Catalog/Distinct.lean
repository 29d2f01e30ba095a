import ConceptScript.Catalog.Basic
import Mathlib.Data.List.Nodup

/-!
Contract: no two types of a catalog have the same name, and no two members of a type.

Owns when a list of names repeats one, and what the soundness of a catalog says about its names.

Does not own the other defects a list of types can have.
-/

set_option autoImplicit false

namespace ConceptScript.Catalog

theorem firstRepeat_eq_none_iff (seen names : List String) :
    firstRepeat seen names = none ↔ names.Nodup ∧ ∀ name ∈ names, name ∉ seen := by
  induction names generalizing seen with
  | nil => simp [firstRepeat]
  | cons name later inductionHypothesis =>
    unfold firstRepeat
    split
    · next isSeen => simp [isSeen]
    · next notSeen =>
      rw [inductionHypothesis]
      simp only [List.nodup_cons, List.mem_cons, not_or, forall_eq_or_imp]
      constructor
      · rintro ⟨distinct, fresh⟩
        exact ⟨⟨fun repeats => (fresh name repeats).1 rfl, distinct⟩, notSeen,
          fun other member => (fresh other member).2⟩
      · rintro ⟨⟨unrepeated, distinct⟩, _, fresh⟩
        refine ⟨distinct, fun other member => ⟨?_, fresh other member⟩⟩
        rintro rfl
        exact unrepeated member

theorem nodup_names (catalog : Catalog) : (catalog.types.map ConceptType.name).Nodup := by
  have sound := catalog.sound
  unfold defect? at sound
  dsimp only at sound
  split at sound
  · cases sound
  · next noRepeat => exact ((firstRepeat_eq_none_iff [] _).1 noRepeat).1

theorem nodup_types (catalog : Catalog) : catalog.types.Nodup :=
  List.Pairwise.of_map ConceptType.name
    (fun _ _ different same => different (congrArg ConceptType.name same)) catalog.nodup_names

/-- A name stands for one type. -/
theorem eq_of_name_eq
    {catalog : Catalog} {type other : ConceptType}
    (isType : type ∈ catalog.types)
    (isOther : other ∈ catalog.types)
    (sameName : type.name = other.name) :
    type = other :=
  List.inj_on_of_nodup_map catalog.nodup_names isType isOther sameName

theorem typeDefect?_of_mem
    {catalog : Catalog} {type : ConceptType}
    (isType : type ∈ catalog.types) :
    typeDefect? (catalog.types.map ConceptType.name) type = none := by
  have sound := catalog.sound
  unfold defect? at sound
  dsimp only at sound
  split at sound
  · cases sound
  · exact List.findSome?_eq_none_iff.1 sound type isType

theorem nodup_members
    {catalog : Catalog} {type : ConceptType}
    (isType : type ∈ catalog.types) :
    (type.members.map Member.name).Nodup := by
  have noDefect := typeDefect?_of_mem isType
  unfold typeDefect? at noDefect
  split at noDefect
  · cases noDefect
  · split at noDefect
    · cases noDefect
    · exact ((firstRepeat_eq_none_iff [] _).1 (Option.map_eq_none_iff.1 noDefect)).1

end ConceptScript.Catalog
