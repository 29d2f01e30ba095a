import ConceptScript.Catalog.Basic
import ConceptScript.Script.Event
import ConceptScript.Token.Scan

/-!
Contract: reading a script as a sequence of nested concepts.

Owns the choice between types that share a keyword, blocks, the order of events, and which fault is
reported where several attempts fail.

Does not own tokens and the values of members.
-/

set_option autoImplicit false

namespace ConceptScript

/-- A parse: everything reported on the way, and the concepts in the order in which they start or
the fault that ended it. -/
structure Parse where
  events : List Event
  outcome : Except Fault (List Concept)

namespace Parse

/-! ## One concept -/

/-- What an attempt reports, and the concept it reads with the place behind it. -/
abbrev Attempt := List Event × Except Fault (Concept × Reader)

/-- Reads the members that are still missing. -/
def readMembers (type : ConceptType) (values : List String) : List Member → Reader → Attempt
  | [], reader => ([], .ok (⟨type, values⟩, reader))
  | member :: later, reader =>
    match reader.readMember member.kind with
    | (.ok value, next) =>
      let concept : Concept := ⟨type, values ++ [value]⟩
      let attempt := readMembers type (values ++ [value]) later next
      (.member next concept member (.ok value) :: attempt.1, attempt.2)
    | (.error fault, next) =>
      let concept : Concept := ⟨type, values⟩
      let fault : Fault :=
        ⟨.memberUnreadable member.label concept.display fault.cause, fault.offset⟩
      ([.member next concept member (.error fault)], .error fault)

/-- Reads a concept of the type whose keyword is the next token. -/
def attempt (reader : Reader) (type : ConceptType) : Attempt :=
  readMembers type [] type.members reader.advance

/-- Every type may stand outside of all blocks. -/
def applicable (stack : List Concept) (type : ConceptType) : Bool :=
  match stack with
  | [] => true
  | parent :: _ => type.allowedIn parent.typeName

def readings (attempts : List Attempt) : List (Concept × Reader) :=
  attempts.filterMap fun attempt => attempt.2.toOption

def faults (attempts : List Attempt) : List Fault :=
  attempts.filterMap fun attempt =>
    match attempt.2 with
    | .error fault => some fault
    | .ok _ => none

/-- The fault that lies furthest in the script, the last one of several. -/
def furthest : List Fault → Option Fault
  | [] => none
  | fault :: later =>
    match furthest later with
    | none => some fault
    | some other => if fault.offset ≤ other.offset then some other else some fault

/-- The readings that consume the most tokens. -/
def longest (readings : List (Concept × Reader)) : List (Concept × Reader) :=
  readings.filter fun reading =>
    readings.all fun other => other.2.position ≤ reading.2.position

/-- Decides between the attempts at the keyword. Exactly one has to consume the most tokens. -/
def choose
    (catalog : Catalog) (stack : List Concept) (keyword : Token) (attempts : List Attempt) :
    Except Fault (Concept × Reader) :=
  match longest (readings attempts) with
  | [reading] => .ok reading
  | [] =>
    if (catalog.typesFor keyword.value).isEmpty then
      .error ⟨.unknownKeyword keyword.value, keyword.start⟩
    else
      match furthest (faults attempts) with
      | some fault => .error fault
      | none =>
        let parent := (stack.head?.map Concept.display).getD ""
        .error ⟨.notAllowedInside keyword.value parent, keyword.start⟩
  | several =>
    .error ⟨.ambiguous keyword.value (several.map fun reading => reading.1.typeName),
      keyword.start⟩

/-- Reads the concept at a token that is not the end. -/
def readConcept
    (catalog : Catalog) (stack : List Concept) (reader : Reader) (keyword : Token) : Attempt :=
  if keyword.isText then
    let types := (catalog.typesFor keyword.value).filter (applicable stack)
    let attempts := types.map (attempt reader)
    (.keyword reader (some keyword.value) :: attempts.flatMap Prod.fst,
      choose catalog stack keyword attempts)
  else
    ([.keyword reader none], .error ⟨.keywordExpected keyword.value, keyword.start⟩)

/-! ## Blocks -/

/-- What is reported around a block, and the concepts that are open afterwards. -/
abbrev Nesting := List Event × Except Fault (List Concept × Reader)

/-- Closes a block for every closing brace that follows. -/
def closeBlocks (stop : Nat) (consumed : List Token) : List Concept → List Token → Nesting
  | stack, [] => ([], .ok (stack, ⟨consumed, [], stop⟩))
  | stack, token :: rest =>
    if token.isSpecial "\x7d" then
      match stack with
      | [] => ([], .error ⟨.nothingToClose, token.start⟩)
      | _ :: outer =>
        let nesting := closeBlocks stop (token :: consumed) outer rest
        (.closed ⟨token :: consumed, rest, stop⟩ outer :: nesting.1, nesting.2)
    else
      ([], .ok (stack, ⟨consumed, token :: rest, stop⟩))

/-- Ends a concept: a semicolon leaves the open blocks as they are, an opening brace adds one. -/
def endConcept (stack : List Concept) (concept : Concept) (reader : Reader) : Nesting :=
  let (opens, next) := reader.trySpecial "\x7b"
  let (ends, next) := if opens then (true, next) else reader.trySpecial ";"
  if ends then
    let stack := if opens then concept :: stack else stack
    let nesting := closeBlocks next.stop next.consumed stack next.rest
    let reported := if opens then [.opened next stack, .keyword next none] else [.keyword next none]
    (reported ++ nesting.1, nesting.2)
  else
    ([], .error ⟨.terminatorExpected concept.display, reader.faultOffset⟩)

/-! ## Progress -/

theorem reaches_readMembers
    {type : ConceptType} {values : List String} {members : List Member} {reader later : Reader}
    {concept : Concept}
    (read : (readMembers type values members reader).2 = .ok (concept, later)) :
    reader.Reaches later := by
  induction members generalizing values reader with
  | nil =>
    obtain ⟨_, rfl⟩ := Prod.mk.inj (Except.ok.inj read)
    exact .refl _
  | cons member members inductionHypothesis =>
    have memberReached := Reader.reaches_readMember reader member.kind
    rw [readMembers] at read
    split at read
    · next value next isRead =>
      rw [isRead] at memberReached
      exact memberReached.trans (inductionHypothesis read)
    · cases read

theorem mem_of_choose
    {catalog : Catalog} {stack : List Concept} {keyword : Token} {attempts : List Attempt}
    {reading : Concept × Reader}
    (chosen : choose catalog stack keyword attempts = .ok reading) :
    ∃ attempt ∈ attempts, attempt.2 = .ok reading := by
  unfold choose at chosen
  split at chosen
  · next single isLongest =>
    obtain rfl := Except.ok.inj chosen
    have member : single ∈ readings attempts := by
      have inLongest : single ∈ longest (readings attempts) := by simp [isLongest]
      exact (List.mem_filter.1 inLongest).1
    obtain ⟨attempt, attempted, isOption⟩ := List.mem_filterMap.1 member
    refine ⟨attempt, attempted, ?_⟩
    cases outcome : attempt.2 with
    | error fault => simp [outcome, Except.toOption] at isOption
    | ok value =>
      simp only [outcome, Except.toOption, Option.some.injEq] at isOption
      rw [isOption]
  · split at chosen
    · cases chosen
    · split at chosen <;> cases chosen
  · cases chosen

/-- A concept takes at least its keyword. -/
theorem readConcept_shorter
    {catalog : Catalog} {stack : List Concept} {reader later : Reader} {keyword : Token}
    {behind : List Token} {concept : Concept}
    (isRest : reader.rest = keyword :: behind)
    (read : (readConcept catalog stack reader keyword).2 = .ok (concept, later)) :
    reader.Reaches later ∧ later.rest.length < reader.rest.length := by
  unfold readConcept at read
  split at read
  · obtain ⟨found, attempted, isFound⟩ := mem_of_choose read
    obtain ⟨type, _, rfl⟩ := List.mem_map.1 attempted
    have reached := reaches_readMembers isFound
    refine ⟨(Reader.reaches_advance reader).trans reached, ?_⟩
    have bound := reached.rest_length_le
    have advanced : reader.advance.rest = behind := by simp [Reader.advance, isRest]
    rw [advanced] at bound
    simp only [isRest, List.length_cons]
    omega
  · cases read

theorem reaches_closeBlocks
    {stop : Nat} {consumed rest : List Token} {stack opened : List Concept} {later : Reader}
    (closed : (closeBlocks stop consumed stack rest).2 = .ok (opened, later)) :
    Reader.Reaches ⟨consumed, rest, stop⟩ later := by
  fun_induction closeBlocks stop consumed stack rest with
  | case1 =>
    obtain ⟨_, rfl⟩ := Prod.mk.inj (Except.ok.inj closed)
    exact .refl _
  | case2 => cases closed
  | case3 consumed token rest _ innermost outer nesting inductionHypothesis =>
    exact .trans ⟨[token], by simp⟩ (inductionHypothesis closed)
  | case4 =>
    obtain ⟨_, rfl⟩ := Prod.mk.inj (Except.ok.inj closed)
    exact .refl _

theorem reaches_trySpecial (reader : Reader) (mark : String) :
    reader.Reaches (reader.trySpecial mark).2 := by
  unfold Reader.trySpecial
  split
  · exact Reader.reaches_advance reader
  · exact .refl _

theorem reaches_endConcept
    {stack opened : List Concept} {concept : Concept} {reader later : Reader}
    (ended : (endConcept stack concept reader).2 = .ok (opened, later)) :
    reader.Reaches later := by
  have braceReached := reaches_trySpecial reader "\x7b"
  have semicolonReached := reaches_trySpecial reader ";"
  unfold endConcept at ended
  generalize brace : reader.trySpecial "\x7b" = afterBrace at ended braceReached
  generalize semicolon : reader.trySpecial ";" = afterSemicolon at ended semicolonReached
  obtain ⟨opens, behindBrace⟩ := afterBrace
  obtain ⟨ends, behindSemicolon⟩ := afterSemicolon
  cases opens with
  | true => exact braceReached.trans (reaches_closeBlocks ended)
  | false =>
    cases ends with
    | true => exact semicolonReached.trans (reaches_closeBlocks ended)
    | false => cases ended

/-! ## Whole scripts -/

/-- Reads the concepts to come, inside of the given open ones. -/
def ofReader (catalog : Catalog) (stack : List Concept) (reader : Reader) : Parse :=
  match _isRest : reader.rest with
  | [] =>
    match stack with
    | [] => ⟨[], .ok []⟩
    | innermost :: _ => ⟨[], .error ⟨.unclosedConcept innermost.display, reader.stop⟩⟩
  | keyword :: _ =>
    let attempt := readConcept catalog stack reader keyword
    match _isAttempt : attempt.2 with
    | .error fault => ⟨attempt.1, .error fault⟩
    | .ok (concept, next) =>
      let nesting := endConcept stack concept next
      match _isNesting : nesting.2 with
      | .error fault => ⟨attempt.1 ++ nesting.1, .error fault⟩
      | .ok (stack, next) =>
        let later := ofReader catalog stack next
        ⟨attempt.1 ++ nesting.1 ++ later.events, later.outcome.map (concept :: ·)⟩
termination_by reader.rest.length
decreasing_by
  have conceptRead := (readConcept_shorter _isRest _isAttempt).2
  have conceptEnded := (reaches_endConcept _isNesting).rest_length_le
  omega

end Parse

/-- Parses tokens; faults at their end are reported at `stop`. -/
def Catalog.parse (catalog : Catalog) (tokens : List Token) (stop : Nat) : Parse :=
  Parse.ofReader catalog [] (.ofTokens tokens stop)

/-- Parses a whole text. A fault of the lexer comes first. -/
def Catalog.parseScript (catalog : Catalog) (source : List Char) : Except Fault (List Concept) :=
  let scan := Scan.ofChars source
  match scan.fault with
  | some fault => .error fault
  | none => (catalog.parse scan.tokens (Text.byteSize source)).outcome

end ConceptScript
