import ConceptScript.Fault
import ConceptScript.Text.Alphanumeric
import ConceptScript.Text.Blank
import ConceptScript.Text.Size
import ConceptScript.Token.Basic

/-!
Contract: the lexeme at the front of a text that does not start with a blank.

Owns the four lexeme forms, the order in which they are tried, and the fact that a lexeme takes at
least one character.

Does not own blanks between lexemes and offsets.
-/

set_option autoImplicit false

namespace ConceptScript

/-- A lexeme: its kind, its value and the characters it is written with. -/
structure Lexeme where
  kind : Token.Kind
  value : List Char
  spelling : List Char
  deriving DecidableEq, Repr

namespace Lexeme

def isNameChar (c : Char) : Bool :=
  Text.isAlphanumeric c || c = '_'

def isMark (c : Char) : Bool :=
  c = '\x7b' || c = '\x7d' || c = ';' || c = '.'

def isQuote (c : Char) : Bool :=
  c = '"' || c = '\''

def isLineEnd (c : Char) : Bool :=
  c = '\n' || c = '\r'

/-- The value of a literal after its opening quote, and the text after the closing one. A quote
written twice stands for itself; `none` where no quote closes the literal. -/
def unquote (mark : Char) : List Char → Option (List Char × List Char)
  | [] => none
  | [c] => if c = mark then some ([], []) else none
  | c :: d :: rest =>
    if c = mark then
      if d = mark then
        (unquote mark rest).map fun (value, after) => (mark :: value, after)
      else
        some ([], d :: rest)
    else
      (unquote mark (d :: rest)).map fun (value, after) => (c :: value, after)

/-- How a value is written inside quotes: every quote twice. -/
def doubled (mark : Char) (value : List Char) : List Char :=
  value.flatMap fun c => if c = mark then [mark, mark] else [c]

/-- A comment runs from two slashes to the end of the line. -/
def comment? : List Char → Option (Lexeme × List Char)
  | '/' :: '/' :: rest =>
    let value := rest.takeWhile fun c => !isLineEnd c
    some (⟨.comment, value, '/' :: '/' :: value⟩, rest.dropWhile fun c => !isLineEnd c)
  | _ => none

/-- The lexeme at the front and the text behind it, or the cause for which there is none. -/
def read : List Char → Option (Except Fault.Cause (Lexeme × List Char))
  | [] => none
  | c :: rest =>
    match comment? (c :: rest) with
    | some found => some (.ok found)
    | none =>
      if isQuote c then
        match unquote c rest with
        | some (value, after) =>
          some (.ok (⟨.stringLiteral, value, c :: doubled c value ++ [c]⟩, after))
        | none => some (.error (.unclosedString c))
      else if isMark c then
        some (.ok (⟨.special, [c], [c]⟩, rest))
      else if isNameChar c then
        let value := c :: rest.takeWhile isNameChar
        some (.ok (⟨.identifier, value, value⟩, rest.dropWhile isNameChar))
      else
        some (.error (.unexpectedCharacter c))

/-! ## A lexeme and the text behind it make up the text -/

theorem doubled_cons (mark c : Char) (value : List Char) :
    doubled mark (c :: value) = (if c = mark then [mark, mark] else [c]) ++ doubled mark value := by
  simp [doubled]

theorem unquote_spelling
    {mark : Char} {chars value after : List Char}
    (closed : unquote mark chars = some (value, after)) :
    doubled mark value ++ mark :: after = chars := by
  fun_induction unquote mark chars generalizing value after with
  | case1 => simp at closed
  | case2 => simp_all [doubled]
  | case3 => simp at closed
  | case4 rest inductionHypothesis =>
    obtain ⟨⟨inner, behind⟩, innerClosed, same⟩ := Option.map_eq_some_iff.1 closed
    obtain ⟨rfl, rfl⟩ := Prod.mk.inj same
    have recovered := inductionHypothesis innerClosed
    simp [doubled_cons, recovered]
  | case5 => simp_all [doubled]
  | case6 c d rest other inductionHypothesis =>
    obtain ⟨⟨inner, behind⟩, innerClosed, same⟩ := Option.map_eq_some_iff.1 closed
    obtain ⟨rfl, rfl⟩ := Prod.mk.inj same
    have recovered := inductionHypothesis innerClosed
    simp [doubled_cons, other, recovered]

theorem comment?_spelling
    {chars after : List Char} {lexeme : Lexeme}
    (found : comment? chars = some (lexeme, after)) :
    lexeme.spelling ++ after = chars ∧ lexeme.spelling ≠ [] := by
  unfold comment? at found
  split at found
  · obtain ⟨rfl, rfl⟩ := Prod.mk.inj (Option.some.inj found)
    simp [List.takeWhile_append_dropWhile]
  · cases found

theorem read_spelling
    {chars after : List Char} {lexeme : Lexeme}
    (found : read chars = some (.ok (lexeme, after))) :
    lexeme.spelling ++ after = chars ∧ lexeme.spelling ≠ [] := by
  unfold read at found
  split at found
  · cases found
  · next c rest =>
    split at found
    · next comment commentFound =>
      obtain rfl := Except.ok.inj (Option.some.inj found)
      exact comment?_spelling commentFound
    · split at found
      · split at found
        · next value behind closed =>
          obtain ⟨rfl, rfl⟩ := Prod.mk.inj (Except.ok.inj (Option.some.inj found))
          simp [unquote_spelling closed]
        · cases Option.some.inj found
      · split at found
        · obtain ⟨rfl, rfl⟩ := Prod.mk.inj (Except.ok.inj (Option.some.inj found))
          simp
        · split at found
          · obtain ⟨rfl, rfl⟩ := Prod.mk.inj (Except.ok.inj (Option.some.inj found))
            simp [List.takeWhile_append_dropWhile]
          · cases Option.some.inj found

theorem read_shorter
    {chars after : List Char} {lexeme : Lexeme}
    (found : read chars = some (.ok (lexeme, after))) :
    after.length < chars.length := by
  obtain ⟨whole, spelled⟩ := read_spelling found
  have taken := List.length_pos_iff.2 spelled
  rw [← whole, List.length_append]
  omega

end Lexeme

end ConceptScript
