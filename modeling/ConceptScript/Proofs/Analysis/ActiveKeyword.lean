import ConceptScript.Proofs.Analysis.Construct
import ConceptScript.Proofs.Script.Trace

/-!
Contract: the keyword that is active at an offset, told from the moves of the parse.

A statement is a concept from its keyword up to the mark behind it, or without mark where the parse
breaks off. A cursor never sees statements: it follows the keyword events, and forgets the keyword
at every mark in front of the offset. What it ends with is the keyword of the statement that the
offset is in.

Owns statements, when one is active, and how tokens lie behind the last one consumed.

Does not own the blocks that are open.
-/

set_option autoImplicit false

namespace ConceptScript

/-! ## Tokens behind the last one consumed -/

namespace Token.Laid

/-- Where the last token consumed ends behind an offset, all tokens to come lie behind it. -/
theorem late_rest
    {reader : Reader} {last : Token} {offset : Nat}
    (laid : Laid reader.tokens)
    (isLast : reader.last? = some last)
    (endsBehind : offset < last.stop) :
    Construct.Late offset reader.rest := by
  intro token isToken
  have isConsumed : last ∈ reader.consumed.reverse :=
    List.mem_reverse.2 (List.mem_of_mem_head? isLast)
  have isOrdered := (List.pairwise_append.1 laid.ordered).2.2 last isConsumed token isToken
  have notEmpty := laid.notEmpty token (List.mem_append_right _ isToken)
  exact ⟨by omega, by omega⟩

theorem of_step
    {catalog : Catalog} {state later : Parse.State} {events : List Event}
    {concepts : List Concept}
    (laid : Laid state.reader.tokens)
    (step : Parse.Step catalog state events concepts later) :
    Laid later.reader.tokens := by
  rw [step.reaches.tokens_eq]
  exact laid

end Token.Laid

/-! ## Statements -/

/-- A concept that the parser starts, and the mark behind it where one is consumed. -/
structure Statement where
  keyword : Token
  mark : Option Token
  deriving DecidableEq

namespace Statement

/-- Whether an offset lies at or behind the keyword, and in front of the mark. -/
def isActive (offset : Nat) (statement : Statement) : Bool :=
  statement.keyword.start ≤ offset && statement.mark.all fun mark => offset < mark.start

def ofMove? : Parse.Move → Option Statement
  | .reads _ keyword mark => some ⟨keyword, some mark⟩
  | .closes _ => none
  | .breaksOff keyword => some ⟨keyword, none⟩

def ofMoves (moves : List Parse.Move) : List Statement :=
  moves.filterMap ofMove?

/-- The keywords of the statements that an offset is in. -/
def keywordsAt (offset : Nat) (moves : List Parse.Move) : List Token :=
  ((ofMoves moves).filter (isActive offset)).map keyword

variable (offset : Nat)

theorem keywordsAt_reads
    (concept : Concept) (keyword mark : Token) (moves : List Parse.Move) :
    keywordsAt offset (.reads concept keyword mark :: moves) =
      (if keyword.start ≤ offset ∧ offset < mark.start then [keyword] else []) ++
        keywordsAt offset moves := by
  by_cases active : keyword.start ≤ offset ∧ offset < mark.start <;>
    simp [keywordsAt, ofMoves, ofMove?, isActive, active]

theorem keywordsAt_closes (brace : Token) (moves : List Parse.Move) :
    keywordsAt offset (.closes brace :: moves) = keywordsAt offset moves :=
  rfl

theorem keywordsAt_breaksOff (keyword : Token) :
    keywordsAt offset [.breaksOff keyword] =
      if keyword.start ≤ offset then [keyword] else [] := by
  by_cases active : keyword.start ≤ offset <;>
    simp [keywordsAt, ofMoves, ofMove?, isActive, active]

theorem keyword_mem_tokens
    {move : Parse.Move} {statement : Statement}
    (isStatement : ofMove? move = some statement) :
    statement.keyword ∈ move.tokens := by
  cases move with
  | reads concept keyword mark =>
    obtain rfl := Option.some.inj isStatement
    exact List.mem_cons_self
  | closes brace => cases isStatement
  | breaksOff keyword =>
    obtain rfl := Option.some.inj isStatement
    exact List.mem_cons_self

/-- No statement behind an offset is active at it. -/
theorem keywordsAt_of_late
    {catalog : Catalog} {state : Parse.State} {moves : List Parse.Move} {offset : Nat}
    (trace : Parse.Trace catalog state moves)
    (late : Construct.Late offset state.reader.rest) :
    keywordsAt offset moves = [] := by
  rw [keywordsAt, List.map_eq_nil_iff, List.filter_eq_nil_iff]
  intro statement isStatement isActive
  obtain ⟨move, isMove, ofMove⟩ := List.mem_filterMap.1 isStatement
  have toCome := trace.mem_rest move isMove _ (keyword_mem_tokens ofMove)
  have startsLate := (late _ toCome).1
  simp only [Statement.isActive, Bool.and_eq_true, decide_eq_true_eq] at isActive
  omega

end Statement

/-! ## The keyword along the moves -/

namespace Construct

variable {catalog : Catalog} {state later : Parse.State} {events : List Event} {offset : Nat}
  {construct : Construct}

theorem keyword_at_word
    {reader : Reader} {keyword : Token}
    (isKeyword : reader.peek? = some keyword)
    (isText : keyword.isText = true)
    (offset : Nat) (construct : Construct) :
    (step offset construct (.keyword reader (Parse.word keyword))).keyword =
      if keyword.start ≤ offset then some keyword else construct.keyword := by
  simp only [step, Parse.word, isText, ↓reduceIte, Cursor.boundary?, isKeyword, Option.map_some]
  split <;> rfl

theorem keyword_at_mark
    (mark : Token) (consumed behind : List Token) (stop offset : Nat) (construct : Construct) :
    (step offset construct (.keyword ⟨mark :: consumed, behind, stop⟩ none)).keyword =
      if mark.start ≤ offset then none else construct.keyword := by
  simp only [step, Cursor.boundary?, Reader.last?, List.head?_cons, Option.map_none]
  split <;> rfl

theorem keyword_at_opened
    (offset : Nat) (construct : Construct) (reader : Reader) (stack : List Concept) :
    (step offset construct (.opened reader stack)).keyword = construct.keyword :=
  keyword_onContext offset construct reader stack

/-- A mark in front of the offset undoes what its keyword did. -/
theorem keyword_after_reads
    {concept : Concept} {keyword mark : Token}
    (step : Parse.Step catalog state events [concept] later)
    (isKeyword : state.reader.peek? = some keyword)
    (isMark : later.reader.last? = some mark)
    (offset : Nat) (construct : Construct) :
    (after offset events construct).keyword =
      if mark.start ≤ offset then none
      else if keyword.start ≤ offset then some keyword
      else construct.keyword := by
  cases step with
  | ends isRest isRead =>
    have isText := Parse.isText_of_readConcept isRead
    obtain rfl := Option.some.inj isMark
    obtain rfl := Option.some.inj (isKeyword.symm.trans (Reader.peek?_of_rest isRest))
    rw [after_append, after_readConcept, after_cons, after_nil, keyword_at_mark,
      keyword_at_word isKeyword isText]
  | opens isRest isRead =>
    have isText := Parse.isText_of_readConcept isRead
    obtain rfl := Option.some.inj isMark
    obtain rfl := Option.some.inj (isKeyword.symm.trans (Reader.peek?_of_rest isRest))
    rw [after_append, after_readConcept, after_cons, after_cons, after_nil, keyword_at_mark,
      keyword_at_opened, keyword_at_word isKeyword isText]

theorem keyword_after_closes
    (step : Parse.Step catalog state events [] later) :
    (after offset events construct).keyword = construct.keyword := by
  cases step with
  | @closes innermost outer last brace consumed behind stop =>
    exact keyword_onContext offset construct ⟨brace :: last :: consumed, behind, stop⟩ outer

theorem keyword_after_breaksOff
    {parse : Parse} {keyword : Token}
    (halts : Parse.Halts catalog state parse)
    (isKeyword : state.reader.peek? = some keyword)
    (isText : keyword.isText = true) :
    (after offset parse.events construct).keyword =
      if keyword.start ≤ offset then some keyword else construct.keyword := by
  cases halts with
  | finished => cases isKeyword
  | unclosed => cases isKeyword
  | unopened isBrace =>
    obtain rfl := Option.some.inj isKeyword
    rw [Parse.isSpecial_eq_false_of_isText isText] at isBrace
    cases isBrace
  | unread isRest =>
    obtain rfl := Option.some.inj (isKeyword.symm.trans (Reader.peek?_of_rest isRest))
    rw [after_readConcept, keyword_at_word isKeyword isText]
  | unended isRest =>
    obtain rfl := Option.some.inj (isKeyword.symm.trans (Reader.peek?_of_rest isRest))
    rw [after_readConcept, keyword_at_word isKeyword isText]

/-- Without a keyword nothing is begun. -/
theorem keyword_after_stops
    {parse : Parse}
    (halts : Parse.Halts catalog state parse)
    (noKeyword : ∀ token ∈ state.reader.peek?, token.isText = false)
    (isNone : construct.keyword = none) :
    (after offset parse.events construct).keyword = none := by
  cases halts with
  | finished => exact isNone
  | unclosed => exact isNone
  | unopened => exact isNone
  | @unread stack reader keyword tail fault isRest =>
    have notText := noKeyword keyword (Reader.peek?_of_rest isRest)
    rw [after_readConcept]
    simp only [step, Parse.word, notText, Bool.false_eq_true, ↓reduceIte, Option.map_none]
    split
    · split
      · rfl
      · exact isNone
    · exact isNone
  | @unended stack reader next keyword tail concept isRest isRead =>
    have notText := noKeyword keyword (Reader.peek?_of_rest isRest)
    rw [Parse.isText_of_readConcept isRead] at notText
    cases notText

/-- From a state between two concepts, the keyword is that of the statement the offset is in. -/
theorem keyword_after_parse
    {moves : List Parse.Move}
    (trace : Parse.Trace catalog state moves)
    (laid : Token.Laid state.reader.tokens)
    (isNone : construct.keyword = none) :
    Statement.keywordsAt offset moves =
      (after offset (state.parse catalog).events construct).keyword.toList := by
  induction trace generalizing construct with
  | @reads state later events concept keyword mark moves step isKeyword isMark goesOn
      inductionHypothesis =>
    have laterLaid := laid.of_step step
    have isBegun := keyword_after_reads step isKeyword isMark offset construct
    rw [Statement.keywordsAt_reads, Parse.parse_of_step step]
    simp only [Parse.after, after_append]
    by_cases markBefore : mark.start ≤ offset
    · rw [if_pos markBefore] at isBegun
      rw [if_neg (by omega), List.nil_append, inductionHypothesis laterLaid isBegun]
    · -- Behind a mark that lies behind the offset, there is nothing more to find.
      have markEnds : mark.start < mark.stop :=
        laid.notEmpty mark (List.mem_append_right _ (step.last_mem_rest isMark))
      have restLate := laterLaid.late_rest isMark (by omega : offset < mark.stop)
      have quiet : Quiet offset (after offset events construct) later.reader :=
        quiet_step step laid.starts_increase (.inl isNone)
      rw [if_neg markBefore, isNone] at isBegun
      rw [after_parse_of_late catalog restLate quiet, Statement.keywordsAt_of_late goesOn restLate,
        isBegun, List.append_nil]
      by_cases keywordBefore : keyword.start ≤ offset
      · rw [if_pos ⟨keywordBefore, by omega⟩, if_pos keywordBefore]
        rfl
      · rw [if_neg (fun active => keywordBefore active.1), if_neg keywordBefore]
        rfl
  | closes step isBrace goesOn inductionHypothesis =>
    rw [Statement.keywordsAt_closes, Parse.parse_of_step step]
    simp only [Parse.after, after_append]
    exact inductionHypothesis (laid.of_step step) ((keyword_after_closes step).trans isNone)
  | breaksOff halts isKeyword isText =>
    rw [Statement.keywordsAt_breaksOff, Parse.parse_of_halts halts,
      keyword_after_breaksOff halts isKeyword isText, isNone]
    split <;> rfl
  | stops halts noKeyword =>
    rw [Parse.parse_of_halts halts, keyword_after_stops halts noKeyword isNone]
    rfl

end Construct

namespace Cursor

open Parse in
/-- **One keyword at most is active, and it is the one recorded.** Every parse has exactly one list
of moves. The recorded keyword is that of the active statement among them, of which there is only
one, and nothing where none is active. -/
theorem keyword_eq_active (catalog : Catalog) (text : Text) (offset : Nat) :
    ∃ moves,
      (∀ others, Trace catalog
          (.initial (Stream.ofText text).tokens (Stream.ofText text).stop) others ↔
        others = moves) ∧
      ((Statement.ofMoves moves).filter (Statement.isActive offset)).map Statement.keyword =
        (ofEvents (.ofTokens (Stream.ofText text).tokens offset)
          (catalog.parse (Stream.ofText text).tokens
            (Stream.ofText text).stop).events).keyword.toList := by
  obtain ⟨moves, isTrace⟩ :=
    exists_unique_trace catalog (.initial (Stream.ofText text).tokens (Stream.ofText text).stop)
  refine ⟨moves, isTrace, ?_⟩
  have isKeyword := congrArg Construct.keyword (Construct.construct_ofEvents
    (.ofTokens (Stream.ofText text).tokens offset)
    (catalog.parse (Stream.ofText text).tokens (Stream.ofText text).stop).events)
  calc
    Statement.keywordsAt offset moves
      = (Construct.after offset (catalog.parse (Stream.ofText text).tokens
          (Stream.ofText text).stop).events {}).keyword.toList :=
        Construct.keyword_after_parse ((isTrace moves).2 rfl) (Stream.laid_tokens text) rfl
    _ = _ := congrArg Option.toList isKeyword.symm

end Cursor

end ConceptScript
