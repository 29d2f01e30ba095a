import ConceptScript.Analysis.Cursor
import ConceptScript.Analysis.Stream
import ConceptScript.Script.Parse

/-!
Contract: one analysis of a text, relative to a position in it or of the text as a whole.

Owns the cut behind the line of the position, which faults are reported, when the position counts
as inside of a comment, and the questions asked of a finished analysis.

Does not own caching.
-/

set_option autoImplicit false

namespace ConceptScript

structure Analysis where
  /-- The text that was analysed, without what follows the line of the position. -/
  text : Text
  position : Position := .zero
  offset : Nat := 0
  tokens : List Token := []
  comments : List Token := []
  scanProblems : List Problem := []
  parseProblems : List Problem := []
  cursor : Cursor := {}
  insideComment : Bool := false
  /-- Without a catalog nothing is analysed. -/
  complete : Bool := false
  deriving DecidableEq, Repr

namespace Analysis

/-! ## Running an analysis -/

/-- A fault of the parser counts unless the tokens were cut short at or before it. -/
def parseFault? (stream : Stream) (parse : Parse) : Option Fault :=
  match parse.outcome with
  | .ok _ => none
  | .error fault =>
    if stream.brokenAt?.any fun offset => offset ≤ fault.offset then none else some fault

/-- Whether a target offset on a line counts as inside of a comment: one covers it, or the last one
that starts at or before it starts on the line. -/
def isInsideComment (text : Text) (line target : Nat) : (last : Option Token) → List Token → Bool
  | last, [] => last.any fun comment => (text.positionOf comment.start).line == line
  | last, comment :: later =>
    if comment.covers target then true
    else if target < comment.start then
      last.any fun comment => (text.positionOf comment.start).line == line
    else isInsideComment text line target (some comment) later

/-- Analyses a text as it is, for an offset and the position it was asked for. -/
def ofText (catalog : Catalog) (text : Text) (position : Position) : Analysis :=
  let offset := text.offsetOf position
  let stream := Stream.ofText text
  let parse := catalog.parse stream.tokens stream.stop
  let cursor := Cursor.ofEvents (.ofTokens stream.tokens offset) parse.events
  let inside := isInsideComment text position.line offset none stream.comments
  { text := text
    position := position
    offset := offset
    tokens := stream.tokens
    comments := stream.comments
    scanProblems := stream.problems text
    parseProblems := (parseFault? stream parse).toList.map (Fault.problem text)
    cursor := if inside then { cursor with keyword := none } else cursor
    insideComment := inside
    complete := true }

/-- Analyses a text at a position, with nothing behind the line of the position, or as a whole. -/
def run (catalog : Catalog) (text : Text) : Option Position → Analysis
  | some position => ofText catalog (text.cutAfterLine (text.offsetOf position)) position
  | none => ofText catalog text .zero

/-- What is known of a text without a catalog. -/
def unavailable (text : Text) : Analysis :=
  { text := text }

/-! ## Questions -/

def problems (analysis : Analysis) : List Problem :=
  analysis.scanProblems ++ analysis.parseProblems

/-- The token that a position lies on. -/
def tokenAt? (analysis : Analysis) (position : Position) : Option Token :=
  analysis.tokens.find? fun token => token.covers (analysis.text.offsetOf position)

/-- The last token that a position lies on or directly behind. -/
def typedAt? (analysis : Analysis) (position : Position) : Option Token :=
  analysis.tokens.reverse.find? fun token => token.touches (analysis.text.offsetOf position)

/-- Whether a problem is reported on the line of a position or above. -/
def isBelowProblem (analysis : Analysis) (position : Position) : Bool :=
  analysis.problems.any fun problem => problem.position.line ≤ position.line

end Analysis

end ConceptScript
