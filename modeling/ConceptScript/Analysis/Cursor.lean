import ConceptScript.Script.Event

/-!
Contract: what the events of a parse say about one offset of the script.

Owns which keyword is active at the offset, which boundary comes next, which concepts enclose it,
which concepts it may be part of, and how far each type has been read in front of it.

Does not own comments, which the parser never sees.
-/

set_option autoImplicit false

namespace ConceptScript

/-- What is kept for each type, by its name. -/
abbrev ByType (α : Type) := List (String × α)

namespace ByType

variable {α : Type}

/-- Sets the entry of a type; the other entries stay as they are. -/
def record (entries : ByType α) (typeName : String) (value : α) : ByType α :=
  match entries with
  | [] => [(typeName, value)]
  | entry :: later =>
    if entry.1 = typeName then (typeName, value) :: later
    else entry :: record later typeName value

def find? (entries : ByType α) (typeName : String) : Option α :=
  entries.lookup typeName

end ByType

/-- The observed offset and the last token that starts at or before it. -/
structure Target where
  offset : Nat
  before : Option Token
  deriving DecidableEq, Repr

def Target.ofTokens (tokens : List Token) (offset : Nat) : Target :=
  ⟨offset, tokens.reverse.find? fun token => token.start ≤ offset⟩

structure Cursor where
  /-- The keyword of the concept that the offset is in. -/
  keyword : Option Token := none
  /-- The first keyword or end of a concept behind the offset. -/
  next : Option Token := none
  /-- The concepts whose blocks are open at the offset, innermost first. -/
  context : List Concept := []
  /-- The concepts that may be what is written at the offset, one for each type. -/
  candidates : List Concept := []
  /-- The last token of the last member read of each type. -/
  lastTokens : ByType Token := []
  /-- The last member read of each type. -/
  lastMembers : ByType Member := []
  deriving DecidableEq, Repr

namespace Cursor

/-- The token a keyword event is about: the keyword to come, or the mark that ended a concept.
Where nothing has been consumed yet, there is no such mark, and the next token takes its place. -/
def boundary? (reader : Reader) (keyword : Option String) : Option Token :=
  match keyword, reader.last? with
  | none, some token => some token
  | _, _ => reader.peek?

def onKeyword (target : Target) (cursor : Cursor) (reader : Reader) (keyword : Option String) :
    Cursor :=
  match boundary? reader keyword with
  | none => cursor
  | some token =>
    if token.start ≤ target.offset then
      if keyword.isSome then { cursor with keyword := some token, candidates := [] }
      else { cursor with keyword := none }
    else
      { cursor with next := cursor.next.or (some token) }

/-- Adds a concept unless there already is one of its type. -/
def addCandidate (candidates : List Concept) (concept : Concept) : List Concept :=
  if candidates.any fun candidate => candidate.typeName == concept.typeName then candidates
  else candidates ++ [concept]

def onMember
    (target : Target) (cursor : Cursor) (reader : Reader) (concept : Concept) (member : Member)
    (isRead : Bool) : Cursor :=
  match reader.last?, target.before with
  | some last, some before =>
    let isNoted := last.start ≤ before.start && isRead
    { cursor with
      candidates :=
        if before.start ≤ last.start then addCandidate cursor.candidates concept
        else cursor.candidates
      lastTokens :=
        if isNoted then cursor.lastTokens.record concept.typeName last else cursor.lastTokens
      lastMembers :=
        if isNoted then cursor.lastMembers.record concept.typeName member
        else cursor.lastMembers }
  | _, _ => cursor

def onContext (target : Target) (cursor : Cursor) (reader : Reader) (stack : List Concept) :
    Cursor :=
  match reader.last? with
  | some last => if last.stop ≤ target.offset then { cursor with context := stack } else cursor
  | none => cursor

def step (target : Target) (cursor : Cursor) : Event → Cursor
  | .keyword reader keyword => cursor.onKeyword target reader keyword
  | .member reader concept member value => cursor.onMember target reader concept member value.isOk
  | .opened reader stack => cursor.onContext target reader stack
  | .closed reader stack => cursor.onContext target reader stack

def ofEvents (target : Target) (events : List Event) : Cursor :=
  events.foldl (step target) {}

/-- The number of members of a candidate that were read in front of the offset. -/
def activeMember (cursor : Cursor) (candidate : Concept) : Nat :=
  match cursor.lastMembers.find? candidate.typeName with
  | some member => (candidate.type.memberIndex? member.name).elim 0 (· + 1)
  | none => 0

end Cursor

end ConceptScript
