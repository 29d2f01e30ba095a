import ConceptScript.Proofs.Analysis.OpenLiteral
import ConceptScript.Proofs.Editor.FirstSignature
import ConceptScript.Proofs.Script.FaultPlace
import ConceptScript.Proofs.Text.Position

/-!
Contract: help is given on concepts of the catalog only.

A keyword that no type fits where it stands ends the parse, and the fault lies at the keyword. It
lies in front of whatever could not be scanned, so it is reported, and on the line of the position
or above. Below a problem no help is given. So where help is given, a type fits the keyword: there
is documentation to show and a signature to list.

Owns which types fit the active keyword, and that help is made of them.

Does not own the order of signatures.
-/

set_option autoImplicit false

namespace ConceptScript

/-- A type of the catalog that the active keyword introduces, and that may stand in the innermost
concept of the context. -/
structure Analysis.Fits (catalog : Catalog) (analysis : Analysis) (keyword : Token)
    (type : ConceptType) : Prop where
  isActive : analysis.cursor.keyword = some keyword
  isType : type ∈ catalog.types
  isMatch : type.matchesKeyword keyword.value = true
  isAllowed : ∀ parent ∈ analysis.cursor.context.head?, type.allowedIn parent.typeName = true

/-! ## Refused keywords are reported -/

namespace Parse

theorem allowedIn_of_applicable
    {stack : List Concept} {type : ConceptType}
    (isApplicable : applicable stack type = true) :
    ∀ parent ∈ stack.head?, type.allowedIn parent.typeName = true := by
  intro parent isParent
  cases stack with
  | nil => cases isParent
  | cons innermost outer =>
    obtain rfl := Option.some.inj isParent
    exact isApplicable

/-- A parse that comes to a keyword which no type fits there ends with a fault at it. -/
theorem exists_fault_of_refused
    {catalog : Catalog} {tokens : List Token} {stop : Nat} {events : List Event}
    {concepts stack : List Concept} {reader : Reader} {keyword : Token}
    (steps : Steps catalog (.initial tokens stop) events concepts ⟨stack, reader⟩)
    (isKeyword : reader.peek? = some keyword)
    (isText : keyword.isText = true)
    (noType : ∀ type ∈ catalog.typesFor keyword.value, applicable stack type = false) :
    ∃ fault, (catalog.parse tokens stop).outcome = .error fault ∧
      fault.offset = keyword.start := by
  obtain ⟨tail, isRest⟩ := List.head?_eq_some_iff.1 isKeyword
  obtain ⟨fault, isFault, refuses⟩ := (readConcept_refuses_iff catalog stack reader isText).2 noType
  have halts : Halts catalog ⟨stack, reader⟩
      ⟨(readConcept catalog stack reader keyword).1, .error fault⟩ :=
    .unread isRest (.inr (isSpecial_eq_false_of_isText isText)) isFault
  have isParse : catalog.parse tokens stop =
      after events concepts ⟨(readConcept catalog stack reader keyword).1, .error fault⟩ :=
    parse_eq_after steps halts
  refine ⟨fault, ?_, offset_of_refused isText isFault refuses⟩
  rw [isParse, outcome_after_eq_error_iff]

end Parse

namespace Analysis

variable {catalog : Catalog} {text : Text} {position : Position} {keyword : Token}

/-- A fault in front of the position is a problem on its line or above, unless the text could not
be scanned that far. -/
theorem isBelowProblem_of_fault
    {fault : Fault}
    (isFault : (catalog.parse (Stream.ofText text).tokens (Stream.ofText text).stop).outcome =
      .error fault)
    (counts : ∀ broken ∈ (Scan.ofChars text.chars).fault, fault.offset < broken.offset)
    (isBefore : fault.offset ≤ text.offsetOf position) :
    (ofText catalog text position).isBelowProblem position = true := by
  have isReported : fault ∈ parseFault? (Stream.ofText text)
      (catalog.parse (Stream.ofText text).tokens (Stream.ofText text).stop) :=
    (mem_parseFault?_iff text _ fault).2 ⟨isFault, counts⟩
  have isProblem : fault.problem text ∈ (ofText catalog text position).problems := by
    rw [problems_ofText]
    apply List.mem_append_right
    exact List.mem_map_of_mem (Option.mem_toList.2 isReported)
  have isAbove : (text.positionOf fault.offset).line ≤ position.line := by
    have inOrder := Position.line_le (text.positionOf_mono isBefore)
    rw [text.line_positionOf_offsetOf position] at inOrder
    omega
  exact List.any_eq_true.2 ⟨_, isProblem, decide_eq_true isAbove⟩

/-- Where help can be relied on, a type fits the active keyword. -/
theorem exists_fits_of_helpKeyword
    (isHelpKeyword : (ofText catalog text position).helpKeyword? position = some keyword) :
    ∃ type, Fits catalog (ofText catalog text position) keyword type := by
  have notBelow : (ofText catalog text position).isBelowProblem position = false := by
    cases isBelow : (ofText catalog text position).isBelowProblem position with
    | true => simp [helpKeyword?, isBelow] at isHelpKeyword
    | false => rfl
  have isKeyword : (ofText catalog text position).cursor.keyword = some keyword := by
    simpa [helpKeyword?, notBelow] using isHelpKeyword
  obtain ⟨own, concepts, steps⟩ := exists_reached_of_active isKeyword
  by_contra noneFits
  have noType : ∀ type ∈ catalog.typesFor keyword.value,
      Parse.applicable (ofText catalog text position).cursor.context type = false := by
    intro type isType
    obtain ⟨isKnown, isMatch⟩ := List.mem_filter.1 isType
    apply Bool.eq_false_iff.2
    intro isApplicable
    exact noneFits ⟨type, isKeyword, isKnown, isMatch, Parse.allowedIn_of_applicable isApplicable⟩
  obtain ⟨fault, isFault, atKeyword⟩ :=
    Parse.exists_fault_of_refused steps own.isKeyword own.isText noType
  have isToken : keyword ∈ (Scan.ofChars text.chars).tokens := by
    have sameTokens : own.reader.tokens = (Scan.ofChars text.chars).tokens :=
      steps.reaches.tokens_eq
    obtain ⟨tail, isRest⟩ := List.head?_eq_some_iff.1 own.isKeyword
    rw [← sameTokens, Reader.tokens, isRest]
    exact List.mem_append_right _ List.mem_cons_self
  have isBelow := isBelowProblem_of_fault isFault
    (fun broken isBroken => by
      rw [atKeyword]
      exact Scan.start_lt_of_fault isBroken keyword isToken)
    (by rw [atKeyword]; exact own.isBefore)
  rw [notBelow] at isBelow
  cases isBelow

end Analysis

/-! ## Documentation -/

namespace Catalog

/-- Documentation opens with a code block. -/
theorem fence_documentation (type : ConceptType) :
    "```".toList <+: (documentation type).toList := by
  unfold documentation
  split
  · exact ⟨"\n".toList ++ type.signature.toList ++ "\n```".toList, by simp⟩
  · exact ⟨"\n".toList ++ type.signature.toList ++ "\n```".toList ++ "\n".toList ++
      type.description.toList, by simp⟩

theorem fence_documentationFor
    {catalog : Catalog} {keyword : String} {type : ConceptType}
    (isType : type ∈ catalog.typesFor keyword) :
    "```".toList <+: (catalog.documentationFor keyword).toList := by
  unfold documentationFor
  obtain ⟨first, later, isTypes⟩ := List.exists_cons_of_ne_nil (List.ne_nil_of_mem isType)
  have isFirst := fence_documentation first
  rw [isTypes, List.map_cons, String.toList_intercalate, List.map_cons]
  cases later with
  | nil => simpa using isFirst
  | cons second later =>
    rw [List.map_cons, List.map_cons, List.intercalate_cons_cons, List.append_assoc]
    exact isFirst.trans (List.prefix_append _ _)

/-- A text that begins with a letter is no documentation. -/
theorem documentationFor_ne_append
    {catalog : Catalog} {keyword front : String} {type : ConceptType} {letter : Char}
    (isType : type ∈ catalog.typesFor keyword)
    (isFront : front.toList.head? = some letter)
    (isLetter : letter.isAlpha = true) (rest : String) :
    catalog.documentationFor keyword ≠ front ++ rest := by
  intro isSame
  obtain ⟨behind, isFenced⟩ := fence_documentationFor isType
  have isFirst : (front ++ rest).toList.head? = some letter := by
    rw [String.toList_append, List.head?_append, isFront]
    rfl
  rw [← isSame, ← isFenced, List.head?_append] at isFirst
  obtain rfl := Option.some.inj isFirst
  exact absurd isLetter (by decide)

end Catalog

/-! ## Signatures -/

namespace SignatureHelp

variable {catalog : Catalog} {types : List ConceptType} {cursor : Cursor}

theorem type_mem_of_candidate
    {candidate : Candidate}
    (isCandidate : candidate ∈ candidates types cursor) :
    candidate.type ∈ types := by
  rw [candidates, List.mem_mergeSort, List.mem_filterMap] at isCandidate
  obtain ⟨concept, -, isFound⟩ := isCandidate
  obtain ⟨type, isType, rfl⟩ := Option.map_eq_some_iff.1 isFound
  exact List.mem_of_find?_eq_some isType

/-- No type of the keyword is left out: what is not ranked follows behind. -/
theorem mem_signatures
    {type : ConceptType}
    (areTypes : types ⊆ catalog.types)
    (isType : type ∈ types) :
    type ∈ (ofCursor types cursor).signatures := by
  unfold ofCursor
  split
  · exact isType
  · next first others isCandidates =>
    let ranked := (first :: others).map Candidate.type
    by_cases isRanked : ranked.any (fun other => other.name == type.name) = true
    · obtain ⟨other, isOther, sameName⟩ := List.any_eq_true.1 isRanked
      obtain ⟨candidate, isCandidate, rfl⟩ := List.mem_map.1 isOther
      rw [← isCandidates] at isCandidate
      obtain rfl : candidate.type = type :=
        Catalog.eq_of_name_eq (areTypes (type_mem_of_candidate isCandidate)) (areTypes isType)
          (eq_of_beq sameName)
      exact List.mem_append_left _ isOther
    · apply List.mem_append_right
      have notRanked : ranked.any (fun other => other.name == type.name) = false :=
        Bool.eq_false_iff.2 isRanked
      exact List.mem_filter.2 ⟨isType, congrArg not notRanked⟩

end SignatureHelp

/-! ## Help -/

/-- **Help is given on known concepts only.** Whatever is shown at a position of a document that was
asked nothing before, some type of the catalog fits the active keyword. So the text shown is its
documentation, never the one that stands for missing documentation, and its signature is listed. -/
theorem Document.help_on_known_concept
    (catalog : Catalog) (text : Text) (position : Position) :
    let analysis := Analysis.run catalog text (some position)
    (∀ hover, (Document.hover? ⟨some catalog⟩ { text := text } position).1 = some hover →
        ∃ keyword type, Analysis.Fits catalog analysis keyword type ∧
          hover.description = catalog.documentationFor keyword.value ∧
          ∀ word, hover.description ≠ "No documentation found for '" ++ word ++ "'.") ∧
      ∀ help, (Document.signatureHelp? ⟨some catalog⟩ { text := text } position).1 = some help →
        ∃ keyword type, Analysis.Fits catalog analysis keyword type ∧ type ∈ help.signatures := by
  intro analysis
  refine ⟨?_, ?_⟩
  · intro hover isHover
    obtain ⟨keyword, isKeyword, isShown⟩ := Option.map_eq_some_iff.1 isHover
    obtain ⟨type, fits⟩ := Analysis.exists_fits_of_helpKeyword isKeyword
    have isType : type ∈ catalog.typesFor keyword.value :=
      List.mem_filter.2 ⟨fits.isType, fits.isMatch⟩
    have isDescription : hover.description = catalog.documentationFor keyword.value := by
      rw [← isShown]
      apply if_neg
      intro isEmpty
      have isFenced := Catalog.fence_documentationFor isType
      rw [String.isEmpty_iff.1 isEmpty] at isFenced
      exact absurd isFenced (by decide)
    refine ⟨keyword, type, fits, isDescription, ?_⟩
    intro word
    rw [isDescription, String.append_assoc]
    exact Catalog.documentationFor_ne_append isType rfl rfl _
  · intro help isHelp
    obtain ⟨keyword, isKeyword, rfl⟩ := Option.map_eq_some_iff.1 isHelp
    obtain ⟨type, fits⟩ := Analysis.exists_fits_of_helpKeyword isKeyword
    refine ⟨keyword, type, fits, ?_⟩
    apply SignatureHelp.mem_signatures (List.filter_subset_self _)
    exact List.mem_filter.2 ⟨fits.isType, fits.isMatch⟩

/-- A part inside of an area, and one behind it. -/
def partsOfArea : Text :=
  .ofString "area \x7b part a; \x7d part b;\n"

/-- Two types are written as parts, and only one of them may stand in an area. -/
def areasAndParts : Catalog :=
  ⟨[⟨"Area", some "area", "", [], []⟩,
    ⟨"Part", some "part", "A part.", ["Area"], [⟨"Is", .text, none⟩]⟩,
    ⟨"Piece", some "part", "", ["Part"], [⟨"Of", .reference, none⟩, ⟨"Is", .text, none⟩]⟩],
    by decide +kernel⟩

/-- Inside of the area the keyword stands for a part. -/
theorem Document.help_on_part_in_area :
    (∃ hover, (Document.hover? ⟨some areasAndParts⟩ { text := partsOfArea } ⟨0, 9⟩).1 =
        some hover ∧
      ∃ keyword type, Analysis.Fits areasAndParts
          (Analysis.run areasAndParts partsOfArea (some ⟨0, 9⟩)) keyword type ∧
        hover.description = areasAndParts.documentationFor keyword.value) ∧
      ∃ help, (Document.signatureHelp? ⟨some areasAndParts⟩ { text := partsOfArea } ⟨0, 9⟩).1 =
          some help ∧
        ∃ keyword type, Analysis.Fits areasAndParts
            (Analysis.run areasAndParts partsOfArea (some ⟨0, 9⟩)) keyword type ∧
          type ∈ help.signatures := by
  have isHover : (Document.hover? ⟨some areasAndParts⟩ { text := partsOfArea } ⟨0, 9⟩).1.isSome =
      true := by
    decide +kernel
  have isHelp : (Document.signatureHelp? ⟨some areasAndParts⟩ { text := partsOfArea }
      ⟨0, 9⟩).1.isSome = true := by
    decide +kernel
  obtain ⟨hover, isHover⟩ := Option.isSome_iff_exists.1 isHover
  obtain ⟨help, isHelp⟩ := Option.isSome_iff_exists.1 isHelp
  have known := Document.help_on_known_concept areasAndParts partsOfArea ⟨0, 9⟩
  obtain ⟨keyword, type, fits, isDescription, -⟩ := known.1 hover isHover
  exact ⟨⟨hover, isHover, keyword, type, fits, isDescription⟩, help, isHelp, known.2 help isHelp⟩

end ConceptScript
