import ConceptScript.Concept
import ConceptScript.Fault
import ConceptScript.Token.Basic

/-!
Contract: a place in a list of tokens, from which values are read.

Owns reading of texts and dotted references, what stays consumed when a read fails, and the law
that reading only moves tokens from what is to come to what is consumed.

Does not own the grammar of concepts.
-/

set_option autoImplicit false

namespace ConceptScript

/-- The tokens that are consumed, last one first, and those to come. `stop` is the offset that
faults at the end of the tokens are reported at. -/
structure Reader where
  consumed : List Token
  rest : List Token
  stop : Nat
  deriving DecidableEq, Repr

namespace Reader

def ofTokens (tokens : List Token) (stop : Nat) : Reader :=
  ⟨[], tokens, stop⟩

/-- The tokens as they were before any was consumed. -/
def tokens (reader : Reader) : List Token :=
  reader.consumed.reverse ++ reader.rest

/-- The number of tokens consumed. -/
def position (reader : Reader) : Nat :=
  reader.consumed.length

def atEnd (reader : Reader) : Bool :=
  reader.rest.isEmpty

def peek? (reader : Reader) : Option Token :=
  reader.rest.head?

def last? (reader : Reader) : Option Token :=
  reader.consumed.head?

/-- The value of the next token if it is text. -/
def peekText? (reader : Reader) : Option String :=
  (reader.peek?.filter Token.isText).map Token.value

/-- Where a fault about the next token is reported. -/
def faultOffset (reader : Reader) : Nat :=
  reader.peek?.elim reader.stop Token.start

/-- Consumes the next token, if there is one. -/
def advance (reader : Reader) : Reader :=
  match reader.rest with
  | [] => reader
  | token :: rest => ⟨token :: reader.consumed, rest, reader.stop⟩

/-- The result of a read and the place it ends at, also where it fails. -/
abbrev Outcome := Except Fault String × Reader

def readText (reader : Reader) : Outcome :=
  match reader.rest with
  | [] => (.error ⟨.textExpectedAtEnd, reader.stop⟩, reader)
  | token :: _ =>
    if token.isText then (.ok token.value, reader.advance)
    else (.error ⟨.textExpected token.value, token.start⟩, reader)

/-- Extends a path by every dot that follows and the text after it. A dot without text after it
stays consumed. -/
def readDotted (path : String) (consumed : List Token) (stop : Nat) : List Token → Outcome
  | [] => (.ok path, ⟨consumed, [], stop⟩)
  | [dot] =>
    if dot.isSpecial "." then (.error ⟨.textExpectedAtEnd, stop⟩, ⟨dot :: consumed, [], stop⟩)
    else (.ok path, ⟨consumed, [dot], stop⟩)
  | dot :: part :: rest =>
    if dot.isSpecial "." then
      if part.isText then
        readDotted (path ++ "." ++ part.value) (part :: dot :: consumed) stop rest
      else
        (.error ⟨.textExpected part.value, part.start⟩, ⟨dot :: consumed, part :: rest, stop⟩)
    else
      (.ok path, ⟨consumed, dot :: part :: rest, stop⟩)

/-- A dotted path: text, then as many times as possible a dot and text. -/
def readReference (reader : Reader) : Outcome :=
  match reader.readText with
  | (.ok path, next) => readDotted path next.consumed next.stop next.rest
  | (.error fault, next) => (.error fault, next)

def readMember (reader : Reader) : Member.Kind → Outcome
  | .text => reader.readText
  | .reference => reader.readReference

/-- Consumes the next token if it is the given mark. -/
def trySpecial (reader : Reader) (mark : String) : Bool × Reader :=
  if reader.peek?.any fun token => token.isSpecial mark then (true, reader.advance)
  else (false, reader)

/-! ## Reading moves tokens and changes nothing else -/

/-- `later` is reached from `reader` by consuming some tokens. -/
def Reaches (reader later : Reader) : Prop :=
  ∃ taken, reader.rest = taken ++ later.rest ∧
    later.consumed = taken.reverse ++ reader.consumed ∧ later.stop = reader.stop

namespace Reaches

theorem refl (reader : Reader) : Reaches reader reader :=
  ⟨[], by simp⟩

theorem trans
    {first second third : Reader}
    (firstSecond : Reaches first second)
    (secondThird : Reaches second third) :
    Reaches first third := by
  obtain ⟨front, frontRest, frontConsumed, frontStop⟩ := firstSecond
  obtain ⟨back, backRest, backConsumed, backStop⟩ := secondThird
  exact ⟨front ++ back, by simp [frontRest, backRest], by simp [backConsumed, frontConsumed],
    by rw [backStop, frontStop]⟩

theorem rest_length_le
    {reader later : Reader}
    (reached : Reaches reader later) :
    later.rest.length ≤ reader.rest.length := by
  obtain ⟨taken, restEq, _⟩ := reached
  simp [restEq]

theorem tokens_eq
    {reader later : Reader}
    (reached : Reaches reader later) :
    later.tokens = reader.tokens := by
  obtain ⟨taken, restEq, consumedEq, _⟩ := reached
  simp [tokens, restEq, consumedEq]

end Reaches

theorem reaches_advance (reader : Reader) : Reaches reader reader.advance := by
  unfold advance
  split
  · exact .refl _
  · next token rest isRest => exact ⟨[token], by simp [isRest]⟩

theorem reaches_readText (reader : Reader) : Reaches reader reader.readText.2 := by
  unfold readText
  split
  · exact .refl _
  · split
    · exact reaches_advance reader
    · exact .refl _

theorem reaches_readDotted
    (path : String) (consumed : List Token) (stop : Nat) (rest : List Token) :
    Reaches ⟨consumed, rest, stop⟩ (readDotted path consumed stop rest).2 := by
  fun_induction readDotted path consumed stop rest with
  | case1 => exact .refl _
  | case2 path consumed dot => exact ⟨[dot], by simp⟩
  | case3 => exact .refl _
  | case4 path consumed dot part rest _ _ inductionHypothesis =>
    exact .trans ⟨[dot, part], by simp⟩ inductionHypothesis
  | case5 path consumed dot part rest => exact ⟨[dot], by simp⟩
  | case6 => exact .refl _

theorem reaches_readReference (reader : Reader) : Reaches reader reader.readReference.2 := by
  have textReached := reaches_readText reader
  unfold readReference
  split
  · next path next isText =>
    rw [isText] at textReached
    exact textReached.trans (reaches_readDotted path next.consumed next.stop next.rest)
  · next fault next isText =>
    rw [isText] at textReached
    exact textReached

theorem reaches_readMember (reader : Reader) (kind : Member.Kind) :
    Reaches reader (reader.readMember kind).2 := by
  cases kind with
  | text => exact reaches_readText reader
  | reference => exact reaches_readReference reader

end Reader

end ConceptScript
