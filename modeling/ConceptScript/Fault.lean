/-!
Contract: what can be wrong with a script, and where.

Owns the causes of the lexer, of reading values and of parsing, with the wording of each.

Does not own severities and line positions, which belong to the diagnostics of a document.
-/

set_option autoImplicit false

namespace ConceptScript

/-- Why a script is refused. Concepts and members appear by the text they are shown with. -/
inductive Fault.Cause where
  | unclosedString (mark : Char)
  | unexpectedCharacter (found : Char)
  | textExpected (found : String)
  | textExpectedAtEnd
  | keywordExpected (found : String)
  | unknownKeyword (keyword : String)
  | memberUnreadable (label concept : String) (reason : Fault.Cause)
  | notAllowedInside (keyword parent : String)
  | ambiguous (keyword : String) (typeNames : List String)
  | terminatorExpected (concept : String)
  | nothingToClose
  | unclosedConcept (concept : String)
  deriving DecidableEq, Repr

def Fault.Cause.message : Fault.Cause → String
  | .unclosedString mark =>
    "Missing closing character (" ++ mark.toString ++ ") for string literal."
  | .unexpectedCharacter found => "Unexpected character '" ++ found.toString ++ "'."
  | .textExpected found => "Expected a text value, found \"" ++ found ++ "\"."
  | .textExpectedAtEnd => "Unexpected end of script, expected a text value."
  | .keywordExpected found => "Unexpected \"" ++ found ++ "\", expected a concept keyword."
  | .unknownKeyword keyword => "Unrecognized concept keyword \"" ++ keyword ++ "\"."
  | .memberUnreadable label concept reason =>
    "Cannot read " ++ label ++ " of \"" ++ concept ++ "\". " ++ reason.message
  | .notAllowedInside keyword parent =>
    "Concept \"" ++ keyword ++ "\" is not allowed inside \"" ++ parent ++ "\"."
  | .ambiguous keyword typeNames =>
    "Ambiguous syntax for \"" ++ keyword ++ "\", it matches: " ++ ", ".intercalate typeNames ++ "."
  | .terminatorExpected concept => "Expected \";\" or \"\x7b\" after \"" ++ concept ++ "\"."
  | .nothingToClose => "Unexpected \"\x7d\", there is no open concept to close."
  | .unclosedConcept concept =>
    "Expected \"\x7d\" at the end of the script to close concept \"" ++ concept ++ "\"."

/-- A cause with the byte offset it is reported at. -/
structure Fault where
  cause : Fault.Cause
  offset : Nat
  deriving DecidableEq, Repr

def Fault.message (fault : Fault) : String :=
  fault.cause.message

/-- The wording that includes the offset. -/
def Fault.located (fault : Fault) : String :=
  fault.message ++ " (at offset " ++ toString fault.offset ++ ")"

end ConceptScript
