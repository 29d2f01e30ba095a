import ConceptScript.Editor.Diagnostic
import ConceptScript.Proofs.Analysis.OpenLiteral
import ConceptScript.Proofs.Script.FaultPlace
import ConceptScript.Proofs.Text.PositionIndex

/-!
Contract: the diagnostics of a whole text.

There are none exactly where the text is a script. Otherwise there is one for the fault of the scan,
and one for that of the parser unless it lies where nothing was scanned any more. The first marks a
place, the second a token or the end of the text. Both stand for the offsets they are about: editors
that count UTF-16 units get back to the same bytes.

Owns which faults have a diagnostic, and the bytes that each of them marks.

Does not own when diagnostics are sent.
-/

set_option autoImplicit false

namespace ConceptScript

/-! ## Ranges -/

/-- The diagnostic words a fault and marks the bytes from `start` to `stop`, neither more nor less:
its ends are in order and stand for these two offsets. -/
structure Diagnostic.Marks (text : Text) (fault : Fault) (start stop : Nat)
    (diagnostic : Diagnostic) : Prop where
  message : diagnostic.message = fault.message
  severity : diagnostic.severity = .error
  ordered : diagnostic.start ≤ diagnostic.stop
  isStart : diagnostic.start = text.toUtf16 (text.positionOf start)
  isStop : diagnostic.stop = text.toUtf16 (text.positionOf stop)
  startExact : text.offsetOf (text.ofUtf16 diagnostic.start) = start
  stopExact : text.offsetOf (text.ofUtf16 diagnostic.stop) = stop

/-- The diagnostic marks the token that the fault is about, or the end of the text. -/
def Diagnostic.MarksToken (text : Text) (tokens : List Token) (fault : Fault)
    (diagnostic : Diagnostic) : Prop :=
  (∃ token ∈ tokens, fault.offset = token.start ∧
      diagnostic.Marks text fault token.start token.stop) ∨
    (fault.offset = text.length ∧ diagnostic.Marks text fault text.length text.length)

theorem Text.offsetOf_ofUtf16
    {text : Text} {offset : Nat}
    (isBoundary : text.IsBoundary offset) :
    text.offsetOf (text.ofUtf16 (text.toUtf16 (text.positionOf offset))) = offset := by
  rw [ofUtf16_toUtf16 (isOnLine_positionOf isBoundary), offsetOf_positionOf isBoundary]

theorem Diagnostic.marks_of_boundaries
    {text : Text} {start stop : Nat} (fault : Fault)
    (isOrdered : start ≤ stop)
    (startBoundary : text.IsBoundary start)
    (stopBoundary : text.IsBoundary stop) :
    Marks text fault start stop
      { start := text.toUtf16 (text.positionOf start)
        stop := text.toUtf16 (text.positionOf stop)
        message := fault.message
        severity := .error } where
  message := rfl
  severity := rfl
  ordered := Text.toUtf16_mono (text.positionOf_mono isOrdered)
    (Text.isOnLine_positionOf stopBoundary)
  isStart := rfl
  isStop := rfl
  startExact := Text.offsetOf_ofUtf16 startBoundary
  stopExact := Text.offsetOf_ofUtf16 stopBoundary

/-! ## Tokens and faults of a scan lie between characters -/

namespace Scan

variable {text : Text} {token : Token} {fault : Fault}

theorem isBoundary_of_mem (isToken : token ∈ (ofChars text.chars).tokens) :
    text.IsBoundary token.start ∧ text.IsBoundary token.stop := by
  have tiles : Tiles 0 text.chars (ofChars text.chars) :=
    (tiles_iff_eq_ofCharsFrom 0 text.chars _).2 rfl
  obtain ⟨front, spelling, rest, isText, isStart, isStop, -⟩ :=
    tiles.spelled token (List.mem_filter.1 isToken).1
  rw [Nat.zero_add] at isStart
  refine ⟨⟨front, spelling ++ rest, isText, isStart.symm⟩, front ++ spelling, rest, ?_, ?_⟩
  · rw [isText, List.append_assoc]
  · rw [Text.byteSize_append, isStop, isStart]

theorem isBoundary_of_fault (isFault : (ofChars text.chars).fault = some fault) :
    text.IsBoundary fault.offset := by
  have tiles : Tiles 0 text.chars (ofChars text.chars) :=
    (tiles_iff_eq_ofCharsFrom 0 text.chars _).2 rfl
  obtain ⟨front, c, rest, isText, isOffset, -⟩ := tiles.broken fault isFault
  rw [Nat.zero_add] at isOffset
  exact ⟨front, c :: rest, isText, isOffset.symm⟩

end Scan

/-- The token that starts at an offset is the one that covers it. -/
theorem Token.Laid.find?_covers
    {tokens : List Token} {token : Token}
    (laid : Laid tokens)
    (isToken : token ∈ tokens) :
    tokens.find? (fun other => other.covers token.start) = some token := by
  obtain ⟨front, back, rfl⟩ := List.append_of_mem isToken
  rw [List.find?_eq_some_iff_append]
  refine ⟨(Token.covers_iff token token.start).2 ?_, front, back, rfl, ?_⟩
  · exact ⟨Nat.le_refl _, laid.notEmpty token isToken⟩
  · intro other isEarlier
    have isBefore : other.stop ≤ token.start :=
      (List.pairwise_append.1 laid.ordered).2.2 other isEarlier token List.mem_cons_self
    simp [Token.covers, isBefore]

/-! ## The diagnostics of an analysis -/

namespace Analysis

variable (catalog : Catalog) {text : Text}

/-- The range of a fault ends behind the token that covers its offset. -/
theorem ofProblem_of_boundary
    {fault : Fault}
    (isBoundary : text.IsBoundary fault.offset) :
    Diagnostic.ofProblem (run catalog text none) (fault.problem text) =
      { start := text.toUtf16 (text.positionOf fault.offset)
        stop := text.toUtf16 (text.positionOf
          (((Scan.ofChars text.chars).tokens.find? fun token => token.covers fault.offset).elim
            fault.offset Token.stop))
        message := fault.message
        severity := .error } := by
  have isFound : (run catalog text none).tokenAt? (fault.problem text).position =
      (Scan.ofChars text.chars).tokens.find? fun token => token.covers fault.offset := by
    show (Scan.ofChars text.chars).tokens.find?
      (fun token => token.covers (text.offsetOf (text.positionOf fault.offset))) = _
    rw [Text.offsetOf_positionOf isBoundary]
  unfold Diagnostic.ofProblem
  rw [isFound]
  cases (Scan.ofChars text.chars).tokens.find? fun token => token.covers fault.offset with
  | none => rfl
  | some token => rfl

/-- Where no token covers the fault, its range is empty. -/
theorem marks_of_not_covered
    {fault : Fault}
    (isBoundary : text.IsBoundary fault.offset)
    (notCovered : ∀ token ∈ (Scan.ofChars text.chars).tokens, token.stop ≤ fault.offset) :
    (Diagnostic.ofProblem (run catalog text none) (fault.problem text)).Marks text fault
      fault.offset fault.offset := by
  have noToken : ((Scan.ofChars text.chars).tokens.find?
      fun token => token.covers fault.offset) = none := by
    rw [List.find?_eq_none]
    intro token isToken isCovered
    have isBefore := notCovered token isToken
    have isInside := ((Token.covers_iff token fault.offset).1 isCovered).2
    omega
  rw [ofProblem_of_boundary catalog isBoundary, noToken]
  exact Diagnostic.marks_of_boundaries fault (Nat.le_refl _) isBoundary isBoundary

theorem marks_of_start
    {fault : Fault} {token : Token}
    (isToken : token ∈ (Scan.ofChars text.chars).tokens)
    (isStart : fault.offset = token.start) :
    (Diagnostic.ofProblem (run catalog text none) (fault.problem text)).Marks text fault
      token.start token.stop := by
  obtain ⟨startBoundary, stopBoundary⟩ := Scan.isBoundary_of_mem isToken
  have laid := Stream.laid_tokens text
  have isFound : ((Scan.ofChars text.chars).tokens.find?
      fun other => other.covers fault.offset) = some token := by
    rw [isStart]
    exact laid.find?_covers isToken
  rw [ofProblem_of_boundary catalog (isStart ▸ startBoundary), isFound, isStart]
  exact Diagnostic.marks_of_boundaries fault (Nat.le_of_lt (laid.notEmpty token isToken))
    startBoundary stopBoundary

/-- The fault of the scan lies behind all tokens. -/
theorem marks_of_scan_fault
    {fault : Fault}
    (isFault : (Scan.ofChars text.chars).fault = some fault) :
    (Diagnostic.ofProblem (run catalog text none) (fault.problem text)).Marks text fault
      fault.offset fault.offset := by
  apply marks_of_not_covered catalog (Scan.isBoundary_of_fault isFault)
  intro token isToken
  exact (Scan.lies_ofChars text.chars).faultBehind fault isFault token (List.mem_filter.1 isToken).1

/-- A fault of the parser that counts is about a token or about the end of the text. -/
theorem marksToken_of_parse_fault
    {fault : Fault}
    (isFault : (catalog.parse (Stream.ofText text).tokens (Stream.ofText text).stop).outcome =
      .error fault)
    (counts : ∀ broken ∈ (Scan.ofChars text.chars).fault, fault.offset < broken.offset) :
    (Diagnostic.ofProblem (run catalog text none) (fault.problem text)).MarksToken text
      (Scan.ofChars text.chars).tokens fault := by
  rcases (Parse.ahead_of_parse isFault).start_or_stop with ⟨token, isToken, isStart⟩ | atStop
  · exact .inl ⟨token, isToken, isStart, marks_of_start catalog isToken isStart⟩
  · cases isBroken : (Scan.ofChars text.chars).fault with
    | some broken =>
      have isStop : (Stream.ofText text).stop = broken.offset := by
        show (Scan.ofChars text.chars).fault.elim text.length Fault.offset = broken.offset
        rw [isBroken]
        rfl
      have isBefore := counts broken isBroken
      rw [atStop] at isBefore
      exact absurd isBefore (Nat.not_lt.2 (Nat.le_of_eq isStop.symm))
    | none =>
      have atEnd : fault.offset = text.length := atStop.trans (stop_of_not_broken isBroken)
      refine .inr ⟨atEnd, ?_⟩
      rw [← atEnd]
      apply marks_of_not_covered catalog
      · rw [atEnd]
        exact text.isBoundary_length
      · intro token isToken
        rw [atEnd]
        exact ((Scan.lies_ofChars text.chars).inside token (List.mem_filter.1 isToken).1).2.2

/-- A text has no problem exactly if it is a script. -/
theorem problems_eq_nil_iff (text : Text) :
    (run catalog text none).problems = [] ↔ (catalog.parseScript text.chars).isOk = true := by
  constructor
  · intro isValid
    obtain ⟨noFault, concepts, isOk⟩ := exists_outcome_of_valid isValid
    have isOutcome : (catalog.parse (Scan.ofChars text.chars).tokens
        (Text.byteSize text.chars)).outcome = .ok concepts := isOk
    simp only [Catalog.parseScript, noFault, isOutcome]
    rfl
  · intro isAccepted
    obtain ⟨noFault, concepts, isOk⟩ := Catalog.scan_of_isOk isAccepted
    have noScanFault : (Stream.ofText text).fault = none := noFault
    have isOutcome : (catalog.parse (Stream.ofText text).tokens text.length).outcome =
        .ok concepts := isOk
    rw [run, problems_ofText, Stream.problems, noScanFault,
      parseFault?_of_not_broken noScanFault, stop_of_not_broken noFault, isOutcome]
    rfl

/-- **Diagnostics are exact.** A text has none exactly if it is a script. Otherwise the fault of the
scan is shown first, as an empty range at its offset. The fault of the parser follows if and only if
it lies in front of that, and marks the token it is about or the end of the text. -/
theorem diagnostics_exact (catalog : Catalog) (text : Text) :
    let scan := Scan.ofChars text.chars
    let stop := scan.fault.elim text.length Fault.offset
    let parse := catalog.parse scan.tokens stop
    let diagnostics := (run catalog text none).diagnostics
    (diagnostics = [] ↔ (catalog.parseScript text.chars).isOk = true) ∧
      (∃ (ofScan ofParse : List Diagnostic) (counted : Option Fault),
        diagnostics = ofScan ++ ofParse ∧
        List.Forall₂ (fun fault => Diagnostic.Marks text fault fault.offset fault.offset)
          scan.fault.toList ofScan ∧
        (∀ fault, counted = some fault ↔
          parse.outcome = .error fault ∧ ∀ broken ∈ scan.fault, fault.offset < broken.offset) ∧
        List.Forall₂ (Diagnostic.MarksToken text scan.tokens) counted.toList ofParse) ∧
      ∀ fault, parse.outcome = .error fault →
        (∃ token ∈ scan.tokens, fault.offset = token.start) ∨ fault.offset = stop := by
  intro scan stop parse diagnostics
  have counts := mem_parseFault?_iff text parse
  refine ⟨?_, ?_, ?_⟩
  · rw [← problems_eq_nil_iff]
    exact List.map_eq_nil_iff
  · let shown (fault : Fault) : Diagnostic :=
      .ofProblem (run catalog text none) (fault.problem text)
    refine ⟨scan.fault.toList.map shown, (parseFault? (Stream.ofText text) parse).toList.map shown,
      parseFault? (Stream.ofText text) parse, ?_, ?_, counts, ?_⟩
    · show (run catalog text none).problems.map (Diagnostic.ofProblem (run catalog text none)) = _
      rw [run, problems_ofText, List.map_append, Stream.problems, List.map_map, List.map_map]
      rfl
    · rw [List.forall₂_map_right_iff, List.forall₂_same]
      intro fault isFault
      exact marks_of_scan_fault catalog (Option.mem_toList.1 isFault)
    · rw [List.forall₂_map_right_iff, List.forall₂_same]
      intro fault isCounted
      obtain ⟨isFault, isBefore⟩ := (counts fault).1 (Option.mem_toList.1 isCounted)
      exact marksToken_of_parse_fault catalog isFault isBefore
  · intro fault isFault
    exact (Parse.ahead_of_parse isFault).start_or_stop

/-- An unknown keyword behind a character of two units, and below it a literal that is left open. -/
def brokenEntity : Text :=
  .ofString "Entity '𝄞' \x7b Short Name; \x7d\n\"Bo"

theorem diagnostics_of_brokenEntity :
    (Scan.ofChars brokenEntity.chars).fault = some ⟨.unclosedString '"', 30⟩ ∧
      (Catalog.builtIn.parse (Scan.ofChars brokenEntity.chars).tokens 30).outcome =
        .error ⟨.unknownKeyword "Short", 16⟩ ∧
      ∃ unclosed unknown, (run .builtIn brokenEntity none).diagnostics = [unclosed, unknown] ∧
        unclosed.Marks brokenEntity ⟨.unclosedString '"', 30⟩ 30 30 ∧
        unknown.MarksToken brokenEntity (Scan.ofChars brokenEntity.chars).tokens
          ⟨.unknownKeyword "Short", 16⟩ := by
  have isBroken : (Scan.ofChars brokenEntity.chars).fault = some ⟨.unclosedString '"', 30⟩ := by
    decide +kernel
  have isUnknown : (Catalog.builtIn.parse (Scan.ofChars brokenEntity.chars).tokens 30).outcome =
      .error ⟨.unknownKeyword "Short", 16⟩ := by
    decide +kernel
  refine ⟨isBroken, isUnknown, ?_⟩
  obtain ⟨-, ⟨ofScan, ofParse, counted, areAll, scanMarks, counts, parseMarks⟩, -⟩ :=
    diagnostics_exact .builtIn brokenEntity
  rw [isBroken] at scanMarks counts
  have isCounted : counted = some ⟨.unknownKeyword "Short", 16⟩ := by
    refine (counts _).2 ⟨isUnknown, ?_⟩
    intro broken isOther
    obtain rfl := Option.some.inj isOther
    decide
  rw [isCounted] at parseMarks
  obtain ⟨unclosed, nothing, marksBroken, noMore, rfl⟩ := List.forall₂_cons_left_iff.1 scanMarks
  obtain rfl := List.forall₂_nil_left_iff.1 noMore
  obtain ⟨unknown, nothing, marksUnknown, noMore, rfl⟩ := List.forall₂_cons_left_iff.1 parseMarks
  obtain rfl := List.forall₂_nil_left_iff.1 noMore
  exact ⟨unclosed, unknown, areAll, marksBroken, marksUnknown⟩

end Analysis

end ConceptScript
