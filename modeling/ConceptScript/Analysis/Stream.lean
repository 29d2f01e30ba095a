import ConceptScript.Analysis.Problem
import ConceptScript.Text.Basic
import ConceptScript.Token.Scan

/-!
Contract: the tokens of a text as the analysis uses them, whether or not the text can be scanned to
its end.

Owns the offset at which the tokens end, and the problem of a fault that cut them short.

Does not own parsing.
-/

set_option autoImplicit false

namespace ConceptScript

/-- Tokens and comments in front of `stop`, which is the end of the text or, where the text cannot
be scanned further, the offset of the fault. -/
structure Stream where
  tokens : List Token
  comments : List Token
  stop : Nat
  fault : Option Fault
  deriving DecidableEq, Repr

namespace Stream

def ofText (text : Text) : Stream :=
  let scan := Scan.ofChars text.chars
  { tokens := scan.tokens
    comments := scan.comments
    stop := scan.fault.elim text.length Fault.offset
    fault := scan.fault }

/-- The offset behind which nothing was scanned. -/
def brokenAt? (stream : Stream) : Option Nat :=
  stream.fault.map Fault.offset

end Stream

/-- A fault as a problem of the text it was found in. -/
def Fault.problem (text : Text) (fault : Fault) : Problem :=
  { position := text.positionOf fault.offset, message := fault.message }

def Stream.problems (text : Text) (stream : Stream) : List Problem :=
  stream.fault.toList.map (Fault.problem text)

end ConceptScript
