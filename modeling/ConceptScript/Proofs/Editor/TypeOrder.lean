import ConceptScript.Proofs.Editor.OfferedKeywords
import ConceptScript.Proofs.Script.TypeOrder

/-!
Contract: catalogs with the same types in another order say the same about every script.

The construct at an offset is a fold over the events of a parse that passes members over, so it is
the same under both catalogs. The keywords offered there are sorted, each one once, so the order in
which their types are listed is lost.

Owns reordered catalogs as seen from outside: what a script means, where it is faulty, and which
keywords are offered in it.

Does not own the wording of faults, nor the candidates of a signature, which do follow the order.
-/

set_option autoImplicit false

namespace ConceptScript

/-! ## Offered keywords -/

/-- Words in ascending order are determined by which words they are. -/
theorem ascending_congr
    {words others : List String}
    (sameWords : ∀ word, word ∈ words ↔ word ∈ others) :
    ascending words = ascending others := by
  have nodup : ∀ list, (ascending list).Nodup := by
    intro list
    apply (pairwise_ascending list).imp
    rintro word _ isLess rfl
    exact String.lt_irrefl word isLess
  have isPerm : (ascending words).Perm (ascending others) := by
    rw [List.perm_ext_iff_of_nodup (nodup words) (nodup others)]
    intro word
    rw [mem_ascending, mem_ascending, sameWords]
  refine isPerm.eq_of_pairwise ?_ (pairwise_ascending words) (pairwise_ascending others)
  intro first second _ _ isLess isGreater
  exact absurd (String.lt_trans isLess isGreater) (String.lt_irrefl first)

variable {left right : Catalog}

theorem Catalog.childTypes_perm
    (isPerm : left.types.Perm right.types) (parent : Option String) :
    (left.childTypes parent).Perm (right.childTypes parent) := by
  cases parent with
  | none => exact isPerm
  | some parent => exact isPerm.filter _

/-! ## Constructs -/

theorem Construct.after_outline (offset : Nat) (events : List Event) (construct : Construct) :
    after offset (Parse.outline events) construct = after offset events construct := by
  induction events generalizing construct with
  | nil => rfl
  | cons event events inductionHypothesis =>
    cases event with
    | member reader concept member value => exact inductionHypothesis construct
    | keyword reader word => exact inductionHypothesis _
    | opened reader stack => exact inductionHypothesis _
    | closed reader stack => exact inductionHypothesis _

/-- The construct at an offset is the same under both catalogs. -/
theorem Cursor.construct_reordered
    (isPerm : left.types.Perm right.types) (tokens : List Token) (stop : Nat) (target : Target) :
    (ofEvents target (left.parse tokens stop).events).construct =
      (ofEvents target (right.parse tokens stop).events).construct := by
  rw [Construct.construct_ofEvents, Construct.construct_ofEvents, ← Construct.after_outline,
    ← Construct.after_outline _ (right.parse tokens stop).events,
    (Parse.parse_reordered isPerm tokens stop).2]

namespace Analysis

theorem construct_reordered
    (isPerm : left.types.Perm right.types) (text : Text) (position : Position) :
    (ofText left text position).cursor.construct =
      (ofText right text position).cursor.construct := by
  have sameConstruct := Cursor.construct_reordered isPerm (Stream.ofText text).tokens
    (Stream.ofText text).stop (.ofTokens (Stream.ofText text).tokens (text.offsetOf position))
  unfold ofText
  dsimp only
  split
  · exact congrArg (Construct.mk none) (congrArg Construct.context sameConstruct)
  · exact sameConstruct

/-- The same keywords are offered under both catalogs. -/
theorem completions_reordered
    (isPerm : left.types.Perm right.types) (text : Text) (position : Position) :
    (ofText left text position).completions left position =
      (ofText right text position).completions right position := by
  have sameConstruct := construct_reordered isPerm text position
  have sameKeyword : (ofText left text position).cursor.keyword =
      (ofText right text position).cursor.keyword := congrArg Construct.keyword sameConstruct
  have sameContext : (ofText left text position).cursor.context =
      (ofText right text position).cursor.context := congrArg Construct.context sameConstruct
  have sameOffer : (ofText left text position).offersKeywords position =
      (ofText right text position).offersKeywords position := by
    rw [offersKeywords, sameKeyword]
    rfl
  unfold completions
  rw [sameOffer, sameContext]
  split
  · apply ascending_congr
    intro word
    exact ((Catalog.childTypes_perm isPerm _).filterMap _).mem_iff
  · rfl

end Analysis

/-! ## Reordered catalogs -/

namespace Catalog

/-- **The order of the types does not matter.** Two catalogs with the same types read the same
concepts from a script or refuse it at the same offset, whatever its tokens and its end. In every
text they offer the same keywords at every position. -/
theorem reordered_agree
    (left right : Catalog) (isPerm : left.types.Perm right.types) :
    (∀ (tokens : List Token) (stop : Nat),
      Parse.Agrees Eq Eq (left.parse tokens stop).outcome (right.parse tokens stop).outcome) ∧
      ∀ (text : Text) (position : Position),
        (Document.completions ⟨some left⟩ { text := text } position).1 =
          (Document.completions ⟨some right⟩ { text := text } position).1 := by
  constructor
  · intro tokens stop
    exact (Parse.parse_reordered isPerm tokens stop).1
  · intro text position
    exact Analysis.completions_reordered isPerm (text.cutAfterLine (text.offsetOf position))
      position

/-- Two types of one keyword, of which the second is listed by another spelling of it. -/
def named : ConceptType :=
  ⟨"Entity", some "define", "", [], [⟨"Name", .text, none⟩]⟩

def referenced : ConceptType :=
  ⟨"Alias", some "Define", "", [], [⟨"Of", .reference, none⟩]⟩

def namedFirst : Catalog :=
  ⟨[named, referenced], by decide +kernel⟩

def referencedFirst : Catalog :=
  ⟨[referenced, named], by decide +kernel⟩

/-- Both types read the name, so the word is ambiguous. -/
def definesName : List Token :=
  [⟨.identifier, "define", 0, 6⟩, ⟨.identifier, "a", 7, 8⟩, ⟨.special, ";", 8, 9⟩]

/-- The faults are worded differently but lie at one offset. -/
theorem reordered_agree_on_ambiguity :
    namedFirst.types.Perm referencedFirst.types ∧
      (namedFirst.parse definesName 9).outcome ≠ (referencedFirst.parse definesName 9).outcome ∧
      Parse.Agrees Eq Eq (namedFirst.parse definesName 9).outcome
        (referencedFirst.parse definesName 9).outcome ∧
      (Document.completions ⟨some namedFirst⟩ { text := .ofString "" } .zero).1 =
        ["Define", "define"] := by
  have isPerm : namedFirst.types.Perm referencedFirst.types := .swap referenced named []
  have agree := reordered_agree namedFirst referencedFirst isPerm
  have isOffered : (Document.completions ⟨some referencedFirst⟩ { text := .ofString "" } .zero).1 =
      ["Define", "define"] := by
    decide +kernel
  refine ⟨isPerm, ?_, agree.1 definesName 9, ?_⟩
  · decide +kernel
  · rw [agree.2, isOffered]

end Catalog

end ConceptScript
