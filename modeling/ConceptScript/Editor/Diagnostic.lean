import ConceptScript.Analysis.Basic

/-!
Contract: problems with the range of text they are about.

Owns ranges, which cover the token at a problem and count UTF-16 units.

Does not own when diagnostics are sent.
-/

set_option autoImplicit false

namespace ConceptScript

/-- A problem over the text from `start` to `stop`, whose columns count UTF-16 units. -/
structure Diagnostic where
  start : Position
  stop : Position
  message : String
  severity : Severity
  deriving DecidableEq, Repr

/-- The range ends behind the token at the problem; without one it is empty. -/
def Diagnostic.ofProblem (analysis : Analysis) (problem : Problem) : Diagnostic :=
  let stop :=
    match analysis.tokenAt? problem.position with
    | some token => analysis.text.positionOf token.stop
    | none => problem.position
  { start := analysis.text.toUtf16 problem.position
    stop := analysis.text.toUtf16 stop
    message := problem.message
    severity := problem.severity }

def Analysis.diagnostics (analysis : Analysis) : List Diagnostic :=
  analysis.problems.map (.ofProblem analysis)

end ConceptScript
