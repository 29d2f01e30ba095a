import ConceptScript.Proofs.Analysis.CursorLine
import ConceptScript.Proofs.Script.CutShort

/-!
Contract: problems that an analysis at a position reports of a text without problems.

The cut behind the line of the position may fall into a literal or into a concept. A literal that is
cut is not closed. A concept that is cut is mostly short of a member or of its mark, which is found
missing behind the line of the position. A problem at the position or above is reported exactly
where the cut falls into a literal, or where what is left of the concept is misread.

Owns when a text without problems counts as broken at a position.

Does not own what is then not shown.
-/

set_option autoImplicit false

namespace ConceptScript.Analysis

open Grammar

/-! ## Problems of a text -/

theorem problems_ofText
    (catalog : Catalog) (text : Text) (position : Position) :
    (ofText catalog text position).problems =
      (Stream.ofText text).problems text ++
        (parseFault? (Stream.ofText text) (catalog.parse (Stream.ofText text).tokens
          (Stream.ofText text).stop)).toList.map (Fault.problem text) :=
  rfl

theorem parseFault?_of_not_broken
    {stream : Stream}
    (noFault : stream.fault = none) (parse : Parse) :
    parseFault? stream parse =
      match parse.outcome with
      | .ok _ => none
      | .error fault => some fault := by
  unfold parseFault?
  cases parse.outcome with
  | ok concepts => rfl
  | error fault => simp [Stream.brokenAt?, noFault]

/-- The fault of the parser counts if it lies in front of that of the scan. -/
theorem mem_parseFault?_iff (text : Text) (parse : Parse) (fault : Fault) :
    fault ∈ parseFault? (Stream.ofText text) parse ↔
      parse.outcome = .error fault ∧
        ∀ broken ∈ (Scan.ofChars text.chars).fault, fault.offset < broken.offset := by
  have isBroken : (Stream.ofText text).brokenAt? =
      (Scan.ofChars text.chars).fault.map Fault.offset := rfl
  rw [parseFault?, isBroken]
  cases parse.outcome with
  | ok concepts => simp
  | error other =>
    cases (Scan.ofChars text.chars).fault with
    | none => simp
    | some broken =>
      by_cases isBehind : broken.offset ≤ other.offset
      · simp only [Option.map_some, Option.any_some, isBehind, decide_true, ↓reduceIte,
          Option.mem_def, Option.some.injEq, Except.error.injEq, reduceCtorEq, false_iff, not_and]
        rintro rfl isBefore
        exact absurd (isBefore broken rfl) (Nat.not_lt.2 isBehind)
      · simp only [Option.map_some, Option.any_some, isBehind, decide_false, Bool.false_eq_true,
          ↓reduceIte, Option.mem_def, Option.some.injEq, Except.error.injEq, forall_eq']
        constructor
        · rintro rfl
          exact ⟨rfl, Nat.lt_of_not_le isBehind⟩
        · exact And.left

theorem stop_of_not_broken
    {text : Text}
    (noFault : (Scan.ofChars text.chars).fault = none) :
    (Stream.ofText text).stop = text.length := by
  show (Scan.ofChars text.chars).fault.elim text.length Fault.offset = text.length
  rw [noFault]
  rfl

/-- A text without problems is scanned and parsed without fault. -/
theorem exists_outcome_of_valid
    {catalog : Catalog} {text : Text}
    (isValid : (run catalog text none).problems = []) :
    (Scan.ofChars text.chars).fault = none ∧
      ∃ concepts, (catalog.parse (Scan.ofChars text.chars).tokens text.length).outcome =
        .ok concepts := by
  have bothEmpty := isValid
  rw [run, problems_ofText, List.append_eq_nil_iff] at bothEmpty
  have noScanFault : (Stream.ofText text).fault = none := by
    have noScanProblem := bothEmpty.1
    cases isFault : (Stream.ofText text).fault with
    | none => rfl
    | some fault => simp [Stream.problems, isFault] at noScanProblem
  refine ⟨noScanFault, ?_⟩
  have noParseProblem := bothEmpty.2
  rw [parseFault?_of_not_broken noScanFault, stop_of_not_broken noScanFault] at noParseProblem
  show ∃ concepts, (catalog.parse (Stream.ofText text).tokens text.length).outcome = .ok concepts
  cases isOutcome : (catalog.parse (Stream.ofText text).tokens text.length).outcome with
  | ok concepts => exact ⟨concepts, rfl⟩
  | error fault => simp [isOutcome] at noParseProblem

theorem isBelowProblem_of_broken
    (catalog : Catalog) {text : Text} {position : Position} {fault : Fault}
    (isFault : (Scan.ofChars text.chars).fault = some fault)
    (isAbove : (text.positionOf fault.offset).line ≤ position.line) :
    (ofText catalog text position).isBelowProblem position = true := by
  have isScanFault : (Stream.ofText text).fault = some fault := isFault
  have isProblem : Fault.problem text fault ∈ (ofText catalog text position).problems := by
    rw [problems_ofText, Stream.problems, isScanFault]
    exact List.mem_append_left _ List.mem_cons_self
  exact List.any_eq_true.2 ⟨_, isProblem, decide_eq_true isAbove⟩

theorem isBelowProblem_iff_of_not_broken
    (catalog : Catalog) {text : Text}
    (noFault : (Scan.ofChars text.chars).fault = none) (position : Position) :
    (ofText catalog text position).isBelowProblem position = true ↔
      ∃ fault, (catalog.parse (Scan.ofChars text.chars).tokens text.length).outcome =
          .error fault ∧
        (text.positionOf fault.offset).line ≤ position.line := by
  have noScanFault : (Stream.ofText text).fault = none := noFault
  have isTokens : (Stream.ofText text).tokens = (Scan.ofChars text.chars).tokens := rfl
  rw [isBelowProblem, problems_ofText, Stream.problems, noScanFault,
    parseFault?_of_not_broken noScanFault, stop_of_not_broken noFault, isTokens]
  cases (catalog.parse (Scan.ofChars text.chars).tokens text.length).outcome with
  | ok concepts => simp
  | error fault => simp [Fault.problem]

/-! ## Texts that are cut -/

/-- The end of a cut text lies in a literal of the whole text. -/
def CutsLiteral (whole cut : Analysis) : Prop :=
  ∃ literal ∈ whole.tokens, literal.kind = .stringLiteral ∧
    literal.start < cut.text.length ∧ cut.text.length < literal.stop

instance (whole cut : Analysis) : Decidable (CutsLiteral whole cut) :=
  inferInstanceAs (Decidable (∃ literal ∈ whole.tokens, literal.kind = .stringLiteral ∧
    literal.start < cut.text.length ∧ cut.text.length < literal.stop))

/-- The concept that is begun at the end of a cut text is misread. -/
def MisreadsConcept (catalog : Catalog) (cut : Analysis) : Prop :=
  Misread catalog
    (Parse.parentType (catalog.parse cut.tokens cut.text.length).openAtEnd)
    (Parse.begun cut.tokens)

variable {text cut : Text} {position : Position}

/-- A literal of the whole text that is cut is a fault of the cut text, at or above the position. -/
theorem broken_of_cut
    (isCut : text.Cut position cut)
    (wholeFault : (Scan.ofChars text.chars).fault = none) {fault : Fault}
    (isFault : (Scan.ofChars cut.chars).fault = some fault) :
    (cut.positionOf fault.offset).line ≤ position.line ∧
      ∃ literal ∈ (Scan.ofChars text.chars).tokens, literal.kind = .stringLiteral ∧
        literal.start < cut.length ∧ cut.length < literal.stop := by
  have faultInside := (Scan.lies_ofChars cut.chars).faultInside fault isFault
  cases isCut with
  | whole =>
    rw [wholeFault] at isFault
    cases isFault
  | @behind front rest isText isLine isBefore =>
    refine ⟨?_, ?_⟩
    · rw [← isLine, Text.line_positionOf_le_iff]
      exact faultInside.2
    · have endsInFeed : (front ++ ['\n']).getLast? = some '\n' := by simp
      have isWhole : text.chars = front ++ ['\n'] ++ rest := by simp [isText]
      rcases Scan.ofCharsFrom_append_of_fault endsInFeed isFault rest with
        same | ⟨-, literal, later, -, isRaw, isLiteral, isStart, isStop⟩
      · rw [isWhole, Scan.ofChars, same] at wholeFault
        rw [Scan.ofChars, wholeFault] at isFault
        cases isFault
      · have isToken : literal ∈ (Scan.ofChars text.chars).tokens := by
          apply List.mem_filter.2
          refine ⟨?_, by simp [Token.isComment, isLiteral]⟩
          rw [isWhole, Scan.ofChars, isRaw]
          simp
        rw [Nat.zero_add] at isStop
        exact ⟨literal, isToken, isLiteral, by rw [isStart]; exact faultInside.2, isStop⟩

/-- Without a fault of the cut text, no token of the whole text lies on both sides of the cut. -/
theorem not_spanning_of_not_broken
    (isCut : text.Cut position cut)
    (noFault : (Scan.ofChars cut.chars).fault = none) {token : Token}
    (isToken : token ∈ (Scan.ofChars text.chars).tokens)
    (startsBefore : token.start < cut.length) :
    token.stop ≤ cut.length := by
  obtain ⟨later, isRaw, isLater⟩ := isCut.exists_raw_append noFault
  have member := (List.mem_filter.1 isToken).1
  rw [isRaw] at member
  rcases List.mem_append.1 member with inCut | inLater
  · exact ((Scan.lies_ofChars cut.chars).inside token inCut).2.2
  · have isBehind := (isLater token inLater).2.1
    omega

/-- In a cut text a fault lies at or above the position if it lies in the text. -/
theorem line_le_iff_of_error
    {catalog : Catalog} {concepts : List Concept} {fault : Fault}
    (isCut : text.Cut position cut)
    (isOk : (catalog.parse (Scan.ofChars text.chars).tokens text.length).outcome = .ok concepts)
    (isError : (catalog.parse (Scan.ofChars cut.chars).tokens cut.length).outcome =
      .error fault) :
    (cut.positionOf fault.offset).line ≤ position.line ↔ fault.offset < cut.length := by
  cases isCut with
  | whole =>
    rw [isOk] at isError
    cases isError
  | @behind front rest isText isLine isBefore =>
    rw [← isLine]
    exact Text.line_positionOf_le_iff front fault.offset

/-- A cut between two tokens gives rise to a problem exactly where the concept in front of it is
misread. -/
theorem isBelowProblem_iff_misread
    {catalog : Catalog} {concepts : List Concept}
    (isCut : text.Cut position cut)
    (isOk : (catalog.parse (Scan.ofChars text.chars).tokens text.length).outcome = .ok concepts)
    (noFault : (Scan.ofChars cut.chars).fault = none) :
    (ofText catalog cut position).isBelowProblem position = true ↔
      MisreadsConcept catalog (ofText catalog cut position) := by
  obtain ⟨later, isRaw, _⟩ := isCut.exists_raw_append noFault
  have isTokens : (Scan.ofChars text.chars).tokens =
      (Scan.ofChars cut.chars).tokens ++ later.filter fun token => !token.isComment := by
    rw [Scan.tokens, isRaw, List.filter_append]
    rfl
  have starts : ∀ token ∈ (Scan.ofChars cut.chars).tokens, token.start < cut.length := by
    intro token isToken
    have inside := (Scan.lies_ofChars cut.chars).inside token (List.mem_filter.1 isToken).1
    exact Nat.lt_of_lt_of_le inside.2.1 inside.2.2
  have isAppended := isOk
  rw [isTokens] at isAppended
  have faultIffMisread := Parse.exists_fault_iff_misread catalog isAppended starts
  rw [isBelowProblem_iff_of_not_broken catalog noFault]
  refine Iff.trans ⟨?_, ?_⟩ faultIffMisread
  · rintro ⟨fault, isError, isAbove⟩
    exact ⟨fault, isError, (line_le_iff_of_error isCut isOk isError).1 isAbove⟩
  · rintro ⟨fault, isError, isInside⟩
    exact ⟨fault, isError, (line_le_iff_of_error isCut isOk isError).2 isInside⟩

/-- A text without problems has a problem at a position or above it exactly where the cut behind the
line of the position falls into a literal, or where the concept it falls into is misread. -/
theorem isBelowProblem_run_iff
    (catalog : Catalog) (text : Text) (position : Position)
    (isValid : (run catalog text none).problems = []) :
    (run catalog text (some position)).isBelowProblem position = true ↔
      CutsLiteral (run catalog text none) (run catalog text (some position)) ∨
        MisreadsConcept catalog (run catalog text (some position)) := by
  obtain ⟨wholeFault, concepts, isOk⟩ := exists_outcome_of_valid isValid
  have isCut := Text.cut_cutAfterLine text position
  rw [run, run]
  generalize text.cutAfterLine (text.offsetOf position) = cut at isCut
  cases isFault : (Scan.ofChars cut.chars).fault with
  | some fault =>
    obtain ⟨isAbove, cutsLiteral⟩ := broken_of_cut isCut wholeFault isFault
    constructor
    · intro _
      exact .inl cutsLiteral
    · intro _
      exact isBelowProblem_of_broken catalog isFault isAbove
  | none =>
    have keepsLiterals : ¬ CutsLiteral (ofText catalog text .zero)
        (ofText catalog cut position) := by
      rintro ⟨literal, isToken, _, startsBefore, stopsBehind⟩
      have stopsBefore := not_spanning_of_not_broken isCut isFault isToken startsBefore
      exact Nat.not_lt.2 stopsBefore stopsBehind
    rw [isBelowProblem_iff_misread isCut isOk isFault]
    constructor
    · exact .inr
    · intro cutOrMisread
      exact cutOrMisread.resolve_left keepsLiterals

/-- Three types of one keyword, of which the one that reads the most is chosen. -/
def sharedKeyword : Catalog :=
  ⟨[⟨"Name", some "part", "", [], [⟨"Is", .text, none⟩]⟩,
    ⟨"Path", some "part", "", [], [⟨"Of", .reference, none⟩]⟩,
    ⟨"Link", some "part", "", [],
      [⟨"From", .reference, none⟩, ⟨"To", .text, none⟩, ⟨"By", .text, none⟩]⟩], by decide +kernel⟩

/-- The literal goes on in the next line. -/
def literalAcrossLines : Text :=
  .ofString "part a.'b\nc';"

/-- In the first line alone, a name is as long as a path. -/
def pathAcrossLines : Text :=
  .ofString "part a\n.b;"

/-- In the first line alone, the longest reading is a path that stops before `c`. -/
def linkAcrossLines : Text :=
  .ofString "part a.b c\nd;"

theorem misreadsConcept_pathAcrossLines :
    (run sharedKeyword pathAcrossLines none).problems = [] ∧
      ¬ CutsLiteral (run sharedKeyword pathAcrossLines none)
        (run sharedKeyword pathAcrossLines (some ⟨0, 0⟩)) ∧
      MisreadsConcept sharedKeyword (run sharedKeyword pathAcrossLines (some ⟨0, 0⟩)) := by
  have isValid : (run sharedKeyword pathAcrossLines none).problems = [] := by
    decide +kernel
  have keepsLiterals : ¬ CutsLiteral (run sharedKeyword pathAcrossLines none)
      (run sharedKeyword pathAcrossLines (some ⟨0, 0⟩)) := by
    decide +kernel
  have isBelow :
      (run sharedKeyword pathAcrossLines (some ⟨0, 0⟩)).isBelowProblem ⟨0, 0⟩ = true := by
    decide +kernel
  have cutOrMisread :=
    (isBelowProblem_run_iff sharedKeyword pathAcrossLines ⟨0, 0⟩ isValid).1 isBelow
  exact ⟨isValid, keepsLiterals, cutOrMisread.resolve_left keepsLiterals⟩

/-- Texts without problems that have one in their first line once the second is cut off. -/
theorem isBelowProblem_acrossLines :
    ((run sharedKeyword literalAcrossLines none).problems = [] ∧
        (run sharedKeyword literalAcrossLines (some ⟨0, 0⟩)).isBelowProblem ⟨0, 0⟩ = true) ∧
      ((run sharedKeyword pathAcrossLines none).problems = [] ∧
        (run sharedKeyword pathAcrossLines (some ⟨0, 0⟩)).isBelowProblem ⟨0, 0⟩ = true) ∧
      ((run sharedKeyword linkAcrossLines none).problems = [] ∧
        (run sharedKeyword linkAcrossLines (some ⟨0, 0⟩)).isBelowProblem ⟨0, 0⟩ = true) := by
  decide +kernel

end ConceptScript.Analysis
