import ConceptScript.Editor.Completion
import ConceptScript.Proofs.Analysis.InFront
import ConceptScript.Proofs.Script.Boundary

/-!
Contract: the keywords that are offered at a position are those that the parser takes there.

Two ways lead to the same answer. What is offered comes from the types that may stand inside of the
concept that the cursor has recorded. What is taken comes from the types of the keyword, of which
the parser keeps those that may stand inside of the innermost open concept.

Owns the order of what is offered, and that the two ways agree behind every boundary.

Does not own what the cursor records.
-/

set_option autoImplicit false

namespace ConceptScript

/-! ## Ascending words -/

theorem mem_insertAscending {word other : String} {words : List String} :
    other ∈ insertAscending word words ↔ other = word ∨ other ∈ words := by
  induction words with
  | nil => simp [insertAscending]
  | cons head later inductionHypothesis =>
    rw [insertAscending]
    split
    · exact List.mem_cons
    · split
      · next same =>
        subst same
        simp
      · rw [List.mem_cons, inductionHypothesis, List.mem_cons]
        exact or_left_comm

theorem pairwise_insertAscending
    {words : List String} (word : String)
    (isAscending : words.Pairwise (· < ·)) :
    (insertAscending word words).Pairwise (· < ·) := by
  induction words with
  | nil => exact List.pairwise_singleton _ word
  | cons head later inductionHypothesis =>
    obtain ⟨headLess, laterAscending⟩ := List.pairwise_cons.1 isAscending
    rw [insertAscending]
    split
    · next isLess =>
      refine List.pairwise_cons.2 ⟨?_, isAscending⟩
      intro other isOther
      rcases List.mem_cons.1 isOther with rfl | isLater
      · exact isLess
      · exact String.lt_trans isLess (headLess other isLater)
    · next notLess =>
      split
      · exact isAscending
      · next different =>
        have isGreater : head < word := by
          apply Classical.byContradiction
          intro notGreater
          exact different
            (String.le_antisymm (String.not_lt.1 notGreater) (String.not_lt.1 notLess))
        refine List.pairwise_cons.2 ⟨?_, inductionHypothesis laterAscending⟩
        intro other isOther
        rcases mem_insertAscending.1 isOther with rfl | isLater
        · exact isGreater
        · exact headLess other isLater

theorem mem_ascending {word : String} {words : List String} :
    word ∈ ascending words ↔ word ∈ words := by
  induction words with
  | nil => exact Iff.rfl
  | cons head later inductionHypothesis =>
    rw [ascending, List.foldr_cons, mem_insertAscending, ← ascending, inductionHypothesis,
      List.mem_cons]

theorem pairwise_ascending (words : List String) : (ascending words).Pairwise (· < ·) := by
  induction words with
  | nil => exact .nil
  | cons head later inductionHypothesis => exact pairwise_insertAscending head inductionHypothesis

theorem Analysis.pairwise_completions
    (catalog : Catalog) (analysis : Analysis) (position : Position) :
    (analysis.completions catalog position).Pairwise (· < ·) := by
  unfold completions
  split
  · exact pairwise_ascending _
  · exact .nil

/-! ## Types that may stand inside of an open concept -/

theorem Catalog.mem_childTypes_iff
    (catalog : Catalog) (stack : List Concept) (type : ConceptType) :
    type ∈ catalog.childTypes (stack.head?.map Concept.typeName) ↔
      type ∈ catalog.types ∧ Parse.applicable stack type = true := by
  cases stack with
  | nil => simp [childTypes, Parse.applicable]
  | cons innermost outer => simp [childTypes, Parse.applicable]

/-- A word is among the keywords of the types that may stand there, up to its case, exactly if one
of its own types may. -/
theorem Catalog.exists_sameKeyword_iff
    (catalog : Catalog) (stack : List Concept) (word : String) :
    (∃ keyword ∈ ascending ((catalog.childTypes (stack.head?.map Concept.typeName)).filterMap
        ConceptType.keyword), sameKeyword keyword word = true) ↔
      ∃ type ∈ catalog.typesFor word, Parse.applicable stack type = true := by
  constructor
  · rintro ⟨keyword, isOffered, isSame⟩
    obtain ⟨type, isChild, isKeyword⟩ := List.mem_filterMap.1 (mem_ascending.1 isOffered)
    obtain ⟨known, isApplicable⟩ := (catalog.mem_childTypes_iff stack type).1 isChild
    refine ⟨type, List.mem_filter.2 ⟨known, ?_⟩, isApplicable⟩
    simp [ConceptType.matchesKeyword, isKeyword, isSame]
  · rintro ⟨type, isType, isApplicable⟩
    obtain ⟨known, isMatch⟩ := List.mem_filter.1 isType
    obtain ⟨keyword, isKeyword, isSame⟩ := Option.any_eq_true _ _ |>.1 isMatch
    have isChild := (catalog.mem_childTypes_iff stack type).2 ⟨known, isApplicable⟩
    exact ⟨keyword, mem_ascending.2 (List.mem_filterMap.2 ⟨type, isChild, isKeyword⟩), isSame⟩

/-! ## What is offered -/

/-- Behind a boundary and outside of comments, the keywords of all types that may stand there are
offered. -/
theorem Analysis.completions_of_inFront
    {catalog : Catalog} {text : Text} {position : Position} {front : List Token}
    {frontStop : Nat} {events : List Event} {concepts stack : List Concept}
    (steps : Parse.Steps catalog (.initial front frontStop) events concepts
      ⟨stack, ⟨front.reverse, [], frontStop⟩⟩)
    (inFront : Token.InFront (text.offsetOf position) (Stream.ofText text).tokens front)
    (outside : isInsideComment text position.line (text.offsetOf position) none
      (Stream.ofText text).comments = false) :
    (ofText catalog text position).completions catalog position =
      ascending ((catalog.childTypes (stack.head?.map Concept.typeName)).filterMap
        ConceptType.keyword) := by
  obtain ⟨keyword, isAfter, isTyped⟩ := Construct.exists_after_of_inFront steps
    (Stream.laid_tokens text) inFront (Stream.ofText text).stop
  have isConstruct := Construct.construct_ofEvents
    (.ofTokens (Stream.ofText text).tokens (text.offsetOf position))
    (catalog.parse (Stream.ofText text).tokens (Stream.ofText text).stop).events
  obtain ⟨isKeyword, isContext⟩ := Construct.mk.inj (isConstruct.trans isAfter)
  have isCursor : (ofText catalog text position).cursor =
      .ofEvents (.ofTokens (Stream.ofText text).tokens (text.offsetOf position))
        (catalog.parse (Stream.ofText text).tokens (Stream.ofText text).stop).events := by
    simp only [ofText, outside]
    rfl
  have isOutside : (ofText catalog text position).insideComment = false := outside
  have offers : (ofText catalog text position).offersKeywords position = true := by
    rw [offersKeywords, isOutside, isCursor, isKeyword]
    cases keyword with
    | none => rfl
    | some word => exact decide_eq_true (isTyped word rfl)
  rw [completions, if_pos offers, isCursor, isContext]

namespace Document

/-- **What is offered is what the parser takes.** The offered keywords ascend. Where the tokens in
front of a position outside of comments end at a boundary, a word is among them, up to its case,
exactly if the parser refuses it neither as unknown nor as not allowed there. -/
theorem completions_iff_not_refused (catalog : Catalog) (text : Text) (position : Position) :
    let offered := (Document.completions ⟨some catalog⟩ { text := text } position).1
    offered.Pairwise (· < ·) ∧
      ∀ (stream : Stream) (front : List Token) (frontStop : Nat),
        (stream = .ofText text ∨
          stream = .ofText (text.cutAfterLine (text.offsetOf position))) →
        text.OutsideComments position stream.comments →
        Token.InFront (text.offsetOf position) stream.tokens front →
        (catalog.parse front frontStop).atBoundary = true →
        ∀ (word : Token) (stop : Nat), word.kind = .identifier →
          ((catalog.parse (front ++ [word]) stop).refusesKeyword = false ↔
            ∃ keyword ∈ offered, sameKeyword keyword word.value = true) := by
  intro offered
  refine ⟨Analysis.pairwise_completions catalog _ position, ?_⟩
  intro stream front frontStop isStream outside inFront isBoundary word stop isName
  have isCut := Text.cut_cutAfterLine text position
  have isOffered : offered = (Analysis.ofText catalog
      (text.cutAfterLine (text.offsetOf position)) position).completions catalog position := rfl
  generalize text.cutAfterLine (text.offsetOf position) = cut at isCut isStream isOffered
  have isText : word.isText = true := by simp [Token.isText, isName]
  obtain ⟨events, concepts, stack, steps⟩ := Parse.exists_steps_of_atBoundary isBoundary
  have cutOutside := isCut.not_isInsideComment (outside.of_subset (isCut.comments_subset isStream))
  have cutInFront := isCut.inFront_cut isStream inFront
  rw [← isCut.offsetOf_eq] at cutInFront
  rw [isOffered, Analysis.completions_of_inFront steps cutInFront cutOutside,
    Catalog.exists_sameKeyword_iff, ← Bool.not_eq_true,
    Parse.refusesKeyword_append_iff steps isText stop]
  simp

/-- Entities stand inside of modules, and modules outside of everything. -/
def moduleEntities : Catalog :=
  ⟨[⟨"Module", some "module", "", [], [⟨"Name", .text, none⟩]⟩,
    ⟨"Entity", some "Entity", "", ["Module"], [⟨"Name", .text, none⟩]⟩], by decide +kernel⟩

/-- A keyword that is being typed, with a comment behind it and an open literal on the next line. -/
def brokenModule : Text :=
  .ofString "module m \x7b\n  ent // e\n\x7d 'x"

/-- The tokens in front of the word that is being typed. -/
def openedModule : List Token :=
  [⟨.identifier, "module", 0, 6⟩, ⟨.identifier, "m", 7, 8⟩, ⟨.special, "\x7b", 9, 10⟩]

theorem completions_in_module :
    brokenModule.OutsideComments ⟨1, 5⟩ (Stream.ofText brokenModule).comments ∧
      Token.InFront (brokenModule.offsetOf ⟨1, 5⟩) (Stream.ofText brokenModule).tokens
        openedModule ∧
      (moduleEntities.parse openedModule 10).atBoundary = true ∧
      (∃ keyword ∈ (Document.completions ⟨some moduleEntities⟩ { text := brokenModule } ⟨1, 5⟩).1,
        sameKeyword keyword "entity" = true) ∧
      ¬ ∃ keyword ∈ (Document.completions ⟨some moduleEntities⟩ { text := brokenModule } ⟨1, 5⟩).1,
        sameKeyword keyword "module" = true := by
  have outside : brokenModule.OutsideComments ⟨1, 5⟩ (Stream.ofText brokenModule).comments := by
    decide +kernel
  have isLast : ((Stream.ofText brokenModule).tokens.reverse.find?
      fun token => token.touches (brokenModule.offsetOf ⟨1, 5⟩)) =
        some ⟨.identifier, "ent", 13, 16⟩ := by
    decide +kernel
  have isTokens : (Stream.ofText brokenModule).tokens =
      openedModule ++ ⟨.identifier, "ent", 13, 16⟩ :: [⟨.special, "\x7d", 22, 23⟩] := by
    decide +kernel
  have inFront : Token.InFront (brokenModule.offsetOf ⟨1, 5⟩) (Stream.ofText brokenModule).tokens
      openedModule := .typed rfl isLast isTokens
  have isBoundary : (moduleEntities.parse openedModule 10).atBoundary = true := by
    decide +kernel
  have agrees := (completions_iff_not_refused moduleEntities brokenModule ⟨1, 5⟩).2
    (.ofText brokenModule) openedModule 10 (.inl rfl) outside inFront isBoundary
  refine ⟨outside, inFront, isBoundary, ?_, ?_⟩
  · exact (agrees ⟨.identifier, "entity", 13, 19⟩ 19 rfl).1 (by decide +kernel)
  · rw [← agrees ⟨.identifier, "module", 13, 19⟩ 19 rfl]
    decide +kernel

end Document

end ConceptScript
