import ConceptScript.Catalog.BuiltIn
import ConceptScript.Proofs.Analysis.ValidText

/-!
Contract: the problems of a script that breaks off inside of a literal.

The scan stops at the literal, and its fault is always reported. The parser is given the tokens in
front of the literal, as if the script ended there. What it then finds missing lies at the literal
and is not reported. What it finds wrong in front of the literal is, although the whole script has
no fault: this happens exactly where the tokens between the last mark and the literal are misread.

Owns which tokens a script that breaks off has, and how many problems are reported of it.

Does not own when tokens are misread.
-/

set_option autoImplicit false

namespace ConceptScript

open Grammar

/-- The concept that is begun at the end of the tokens is misread. -/
def Catalog.MisreadsBegun (catalog : Catalog) (tokens : List Token) (stop : Nat) : Prop :=
  Misread catalog (Parse.parentType (catalog.parse tokens stop).openAtEnd) (Parse.begun tokens)

theorem Catalog.scan_of_isOk
    {catalog : Catalog} {source : List Char}
    (isAccepted : (catalog.parseScript source).isOk = true) :
    (Scan.ofChars source).fault = none ∧
      ∃ concepts, (catalog.parse (Scan.ofChars source).tokens (Text.byteSize source)).outcome =
        .ok concepts := by
  unfold parseScript at isAccepted
  cases isFault : (Scan.ofChars source).fault with
  | some fault =>
    simp only [isFault] at isAccepted
    cases isAccepted
  | none =>
    simp only [isFault] at isAccepted
    refine ⟨rfl, ?_⟩
    cases isOutcome : (catalog.parse (Scan.ofChars source).tokens
        (Text.byteSize source)).outcome with
    | ok concepts => exact ⟨concepts, rfl⟩
    | error fault =>
      rw [isOutcome] at isAccepted
      cases isAccepted

namespace Scan

variable {cut rest : List Char} {mark : Char} {start : Nat}

/-- A script that breaks off inside of a literal has the tokens in front of that literal. -/
theorem exists_literal_of_open
    (noFault : (ofChars (cut ++ rest)).fault = none)
    (isOpen : (ofChars cut).fault = some ⟨.unclosedString mark, start⟩) :
    ∃ literal later, (ofChars (cut ++ rest)).tokens = (ofChars cut).tokens ++ literal :: later ∧
      literal.kind = .stringLiteral ∧ literal.start = start ∧
      Text.byteSize cut < literal.stop := by
  rcases ofCharsFrom_append_of_settled isOpen (by simp) rest with
    same | ⟨-, literal, later, -, isRaw, isLiteral, isStart, isStop⟩
  · rw [ofChars, same, ← ofChars, isOpen] at noFault
    cases noFault
  · rw [Nat.zero_add] at isStop
    refine ⟨literal, later.filter fun token => !token.isComment, ?_, isLiteral, isStart, isStop⟩
    have isKept : literal.isComment = false := by simp [Token.isComment, isLiteral]
    rw [tokens, ofChars, isRaw, List.filter_append, List.filter_cons_of_pos (by simp [isKept])]
    rfl

theorem start_lt_of_fault
    {fault : Fault}
    (isFault : (ofChars cut).fault = some fault) :
    ∀ token ∈ (ofChars cut).tokens, token.start < fault.offset := by
  intro token isToken
  have isRaw := (List.mem_filter.1 isToken).1
  have lies := lies_ofChars cut
  have notEmpty := (lies.inside token isRaw).2.1
  have isBehind := lies.faultBehind fault isFault token isRaw
  omega

end Scan

namespace Analysis

/-- The fault of the scan is reported, and behind it that of the parser if it lies in front. -/
theorem problems_of_broken
    (catalog : Catalog) {text : Text} {fault : Fault}
    (isFault : (Scan.ofChars text.chars).fault = some fault) :
    (run catalog text none).problems =
      fault.problem text ::
        (match (catalog.parse (Scan.ofChars text.chars).tokens fault.offset).outcome with
          | .ok _ => []
          | .error other => if fault.offset ≤ other.offset then [] else [other.problem text]) := by
  have isStream : (Stream.ofText text).fault = some fault := isFault
  have isStop : (Stream.ofText text).stop = fault.offset := by
    show (Scan.ofChars text.chars).fault.elim text.length Fault.offset = fault.offset
    rw [isFault]
    rfl
  have isTokens : (Stream.ofText text).tokens = (Scan.ofChars text.chars).tokens := rfl
  rw [run, problems_ofText, Stream.problems, isStream, isStop, isTokens, parseFault?]
  cases (catalog.parse (Scan.ofChars text.chars).tokens fault.offset).outcome with
  | ok concepts => rfl
  | error other =>
    by_cases isBehind : fault.offset ≤ other.offset
    · simp [Stream.brokenAt?, isStream, isBehind]
    · simp [Stream.brokenAt?, isStream, isBehind]

/-- **A script that breaks off inside of a literal.** The literal is the only problem exactly where
the concept in front of it is not misread. Where it is, there is one more problem, in front of the
literal. -/
theorem problems_of_open_literal
    (catalog : Catalog) {cut rest : List Char} {mark : Char} {start : Nat}
    (isAccepted : (catalog.parseScript (cut ++ rest)).isOk = true)
    (isOpen : (Scan.ofChars cut).fault = some ⟨.unclosedString mark, start⟩) :
    let problems := (run catalog ⟨cut⟩ none).problems
    let unclosed := Fault.problem ⟨cut⟩ ⟨.unclosedString mark, start⟩
    let tokens := (Scan.ofChars cut).tokens
    (∃ literal ∈ (Scan.ofChars (cut ++ rest)).tokens, literal.kind = .stringLiteral ∧
        literal.start = start ∧ Text.byteSize cut < literal.stop) ∧
      (problems = [unclosed] ↔ ¬ catalog.MisreadsBegun tokens start) ∧
      (catalog.MisreadsBegun tokens start →
        ∃ fault, (catalog.parse tokens start).outcome = .error fault ∧ fault.offset < start ∧
          problems = [unclosed, Fault.problem ⟨cut⟩ fault]) := by
  intro problems unclosed tokens
  obtain ⟨noFault, concepts, isOk⟩ := Catalog.scan_of_isOk isAccepted
  obtain ⟨literal, later, isTokens, isLiteral, isStart, isStop⟩ :=
    Scan.exists_literal_of_open noFault isOpen
  rw [isTokens] at isOk
  have misreadIff := Parse.exists_fault_iff_misread catalog isOk (Scan.start_lt_of_fault isOpen)
  have areProblems : problems = unclosed :: _ := problems_of_broken catalog isOpen
  have misreads : catalog.MisreadsBegun tokens start →
      ∃ fault, (catalog.parse tokens start).outcome = .error fault ∧ fault.offset < start ∧
        problems = [unclosed, Fault.problem ⟨cut⟩ fault] := by
    intro isMisread
    obtain ⟨fault, isFault, isBefore⟩ := misreadIff.2 isMisread
    refine ⟨fault, isFault, isBefore, ?_⟩
    rw [areProblems, isFault]
    simp only [if_neg (Nat.not_le.2 isBefore)]
  refine ⟨⟨literal, by rw [isTokens]; simp, isLiteral, isStart, isStop⟩, ⟨?_, ?_⟩, misreads⟩
  · intro isSingle isMisread
    obtain ⟨fault, -, -, areTwo⟩ := misreads isMisread
    rw [areTwo] at isSingle
    cases isSingle
  · intro notMisread
    rw [areProblems]
    cases isOutcome : (catalog.parse tokens start).outcome with
    | ok concepts => rfl
    | error fault =>
      have isBehind : start ≤ fault.offset := by
        apply Nat.le_of_not_lt
        intro isBefore
        exact notMisread (misreadIff.1 ⟨fault, isOutcome, isBefore⟩)
      simp only [if_pos isBehind]

/-- Breaks off where a reference is named. -/
def openTarget : List Char :=
  "Entity Book \x7b Reference Author \"Per".toList

/-- Breaks off behind the dot of a reference. -/
def openPath : List Char :=
  "Entity Book \x7b Reference Author Shop.\"Per".toList

/-- What is missing at the end of both. -/
def closesBook : List Char :=
  "son\"; \x7d".toList

/-- `Reference Author` can be read as it stands, and nothing is left over in front of the literal. -/
theorem problems_of_openTarget :
    (Catalog.builtIn.parseScript (openTarget ++ closesBook)).isOk = true ∧
      (Scan.ofChars openTarget).fault = some ⟨.unclosedString '"', 31⟩ ∧
      (run .builtIn ⟨openTarget⟩ none).problems =
        [Fault.problem ⟨openTarget⟩ ⟨.unclosedString '"', 31⟩] ∧
      ¬ Catalog.builtIn.MisreadsBegun (Scan.ofChars openTarget).tokens 31 := by
  have isAccepted : (Catalog.builtIn.parseScript (openTarget ++ closesBook)).isOk = true := by
    decide +kernel
  have isOpen : (Scan.ofChars openTarget).fault = some ⟨.unclosedString '"', 31⟩ := by
    decide +kernel
  have isSingle : (run .builtIn ⟨openTarget⟩ none).problems =
      [Fault.problem ⟨openTarget⟩ ⟨.unclosedString '"', 31⟩] := by
    decide +kernel
  exact ⟨isAccepted, isOpen, isSingle,
    (problems_of_open_literal .builtIn isAccepted isOpen).2.1.1 isSingle⟩

/-- `Reference Author` is taken for all of the concept, and `Shop` is left over. -/
theorem problems_of_openPath :
    (Catalog.builtIn.parseScript (openPath ++ closesBook)).isOk = true ∧
      (Scan.ofChars openPath).fault = some ⟨.unclosedString '"', 36⟩ ∧
      (run .builtIn ⟨openPath⟩ none).problems =
        [Fault.problem ⟨openPath⟩ ⟨.unclosedString '"', 36⟩,
          Fault.problem ⟨openPath⟩ ⟨.terminatorExpected "Reference Author", 31⟩] := by
  decide +kernel

end Analysis

end ConceptScript
