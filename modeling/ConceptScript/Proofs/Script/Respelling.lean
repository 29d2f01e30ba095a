import ConceptScript.Proofs.Script.Agreement
import Mathlib.Data.List.Forall2

/-!
Contract: a concept is read in the same way from tokens that say the same.

Two readers stand side by side if they have consumed equally many tokens and those to come say the
same as far as any member can go. Where the tokens lie may differ, and whether a text is quoted. A
keyword may even be written in another case, because a keyword is never part of what is read.

Owns when tokens say the same, offsets of the same token, and that readers side by side stay so and
agree on a whole concept.

Does not own which tokens of a script are keywords.
-/

set_option autoImplicit false

namespace ConceptScript

/-! ## Tokens that say the same -/

/-- Names and quoted text stand for each other, and the other kinds for themselves. -/
def Token.Kind.Interchangeable : Token.Kind → Token.Kind → Prop
  | .identifier, .stringLiteral | .stringLiteral, .identifier => True
  | kind, other => kind = other

namespace Token

/-- The same value in interchangeable kinds, wherever the tokens lie. -/
structure SameWord (token other : Token) : Prop where
  kinds : token.kind.Interchangeable other.kind
  value_eq : token.value = other.value

theorem isText_eq
    {token other : Token}
    (kinds : token.kind.Interchangeable other.kind) :
    token.isText = other.isText := by
  unfold isText
  cases isKind : token.kind <;> cases isOther : other.kind <;>
    simp_all [Kind.Interchangeable]

namespace SameWord

variable {token other : Token}

theorem isSpecial_eq (same : SameWord token other) (mark : String) :
    token.isSpecial mark = other.isSpecial mark := by
  obtain ⟨kinds, value_eq⟩ := same
  unfold isSpecial
  rw [value_eq]
  cases isKind : token.kind <;> cases isOther : other.kind <;>
    simp_all [Kind.Interchangeable]

end SameWord

/-- Two lists of tokens that say the same up to the first barrier and including it. -/
inductive Alike : List Token → List Token → Prop where
  | nil : Alike [] []
  | barrier {token other : Token} {rest otherRest : List Token}
      (same : SameWord token other) (isBarrier : token.isBarrier = true) :
      Alike (token :: rest) (other :: otherRest)
  | cons {token other : Token} {rest otherRest : List Token}
      (same : SameWord token other) (later : Alike rest otherRest) :
      Alike (token :: rest) (other :: otherRest)

theorem Alike.exists_cons
    {token : Token} {rest others : List Token}
    (alike : Alike (token :: rest) others) :
    ∃ other otherRest, others = other :: otherRest ∧ SameWord token other ∧
      (token.isBarrier = false → Alike rest otherRest) := by
  cases alike with
  | barrier same isBarrier =>
    refine ⟨_, _, rfl, same, fun notBarrier => ?_⟩
    rw [isBarrier] at notBarrier
    cases notBarrier
  | cons same later => exact ⟨_, _, rfl, same, fun _ => later⟩

/-! ## Offsets of the same token -/

/-- The offsets that faults are reported at: where the tokens start, and where they end. -/
def offsets (tokens : List Token) (stop : Nat) : List Nat :=
  tokens.map start ++ [stop]

/-- Two offsets that stand at the same place of their lists. -/
def SameIndex (offsets others : List Nat) (offset other : Nat) : Prop :=
  ∃ index : Nat, offsets[index]? = some offset ∧ others[index]? = some other

/-- In ascending lists, offsets of the same tokens come in the same order. -/
theorem SameIndex.le
    {offsets others : List Nat} {first second third fourth : Nat}
    (ascend : offsets.Pairwise (· < ·))
    (otherAscend : others.Pairwise (· < ·))
    (same : SameIndex offsets others first second)
    (laterSame : SameIndex offsets others third fourth)
    (isBefore : first ≤ third) :
    second ≤ fourth := by
  obtain ⟨index, isFirst, isSecond⟩ := same
  obtain ⟨later, isThird, isFourth⟩ := laterSame
  obtain ⟨indexLess, rfl⟩ := List.getElem?_eq_some_iff.1 isFirst
  obtain ⟨otherIndexLess, rfl⟩ := List.getElem?_eq_some_iff.1 isSecond
  obtain ⟨laterLess, rfl⟩ := List.getElem?_eq_some_iff.1 isThird
  obtain ⟨otherLaterLess, rfl⟩ := List.getElem?_eq_some_iff.1 isFourth
  rcases Nat.lt_trichotomy index later with isLess | rfl | isGreater
  · exact Nat.le_of_lt (List.pairwise_iff_getElem.1 otherAscend _ _ _ _ isLess)
  · exact Nat.le_refl _
  · have isBehind := List.pairwise_iff_getElem.1 ascend _ _ laterLess indexLess isGreater
    omega

end Token

namespace Reader

open Parse (Agrees)
open Token (Alike SameIndex)

def offsets (reader : Reader) : List Nat :=
  Token.offsets reader.tokens reader.stop

theorem Reaches.offsets_eq
    {reader later : Reader}
    (reached : reader.Reaches later) :
    later.offsets = reader.offsets := by
  obtain ⟨taken, _, _, isStop⟩ := id reached
  rw [offsets, offsets, reached.tokens_eq, isStop]

theorem getElem?_offsets (reader : Reader) :
    reader.offsets[reader.position]? = some reader.faultOffset := by
  obtain ⟨consumed, rest, stop⟩ := reader
  cases rest <;> simp [offsets, Token.offsets, tokens, position, faultOffset, peek?]

theorem offsets_cons (consumed rest : List Token) (token : Token) (stop : Nat) :
    offsets ⟨token :: consumed, rest, stop⟩ = offsets ⟨consumed, token :: rest, stop⟩ := by
  simp [offsets, tokens]

/-- At the same position, faults about the next token lie at offsets of the same token. -/
theorem sameIndex_faultOffset
    {reader other : Reader}
    (samePosition : reader.position = other.position) :
    SameIndex reader.offsets other.offsets reader.faultOffset other.faultOffset :=
  ⟨reader.position, reader.getElem?_offsets, samePosition ▸ other.getElem?_offsets⟩

/-! ## Members -/

/-- Two places that are equally far and have tokens to come that say the same. -/
structure Beside (reader other : Reader) : Prop where
  samePosition : reader.position = other.position
  alike : Alike reader.rest other.rest

/-- Both can go past a token that is no barrier. -/
theorem Beside.exists_cons
    {consumed rest otherConsumed otherRest : List Token} {token : Token} {stop otherStop : Nat}
    (beside : Beside ⟨consumed, token :: rest, stop⟩ ⟨otherConsumed, otherRest, otherStop⟩) :
    ∃ other behind, otherRest = other :: behind ∧ token.SameWord other ∧
      (token.isBarrier = false →
        Beside ⟨token :: consumed, rest, stop⟩ ⟨other :: otherConsumed, behind, otherStop⟩) := by
  obtain ⟨other, behind, isRest, same, later⟩ := beside.alike.exists_cons
  refine ⟨other, behind, isRest, same, fun notBarrier => ⟨?_, later notBarrier⟩⟩
  exact congrArg Nat.succ beside.samePosition

theorem Beside.exists_peek
    {reader other : Reader} {word : Token}
    (beside : Beside reader other)
    (isNext : word ∈ other.peek?) :
    ∃ token ∈ reader.peek?, token.SameWord word := by
  obtain ⟨consumed, rest, stop⟩ := reader
  obtain ⟨otherConsumed, otherRest, otherStop⟩ := other
  cases rest with
  | nil =>
    cases beside.alike
    cases isNext
  | cons token rest =>
    obtain ⟨found, behind, rfl, same, -⟩ := beside.exists_cons
    obtain rfl : found = word := Option.some.inj isNext
    exact ⟨token, rfl, same⟩

theorem readText_beside
    {reader other : Reader}
    (beside : Beside reader other) :
    Agrees (SameIndex reader.offsets other.offsets) Eq reader.readText.1 other.readText.1 ∧
      Beside reader.readText.2 other.readText.2 := by
  have sameFault := sameIndex_faultOffset beside.samePosition
  obtain ⟨consumed, rest, stop⟩ := reader
  obtain ⟨otherConsumed, otherRest, otherStop⟩ := other
  cases rest with
  | nil =>
    cases beside.alike
    exact ⟨.error sameFault, beside⟩
  | cons token rest =>
    obtain ⟨word, behind, rfl, same, later⟩ := beside.exists_cons
    have sameText := Token.isText_eq same.kinds
    by_cases isText : token.isText = true
    · have notBarrier : token.isBarrier = false := by simp [Token.isBarrier, isText]
      simp only [readText, ← sameText, isText, ↓reduceIte]
      exact ⟨.ok same.value_eq, later notBarrier⟩
    · simp only [readText, ← sameText, isText]
      exact ⟨.error sameFault, beside⟩

theorem readDotted_of_not_dot
    {path : String} {consumed rest : List Token} {token : Token} {stop : Nat}
    (noDot : token.isSpecial "." = false) :
    readDotted path consumed stop (token :: rest) =
      (.ok path, ⟨consumed, token :: rest, stop⟩) := by
  cases rest <;> simp [readDotted, noDot]

theorem readDotted_beside
    {path : String} {consumed rest otherConsumed otherRest : List Token} {stop otherStop : Nat}
    (beside : Beside ⟨consumed, rest, stop⟩ ⟨otherConsumed, otherRest, otherStop⟩) :
    Agrees (SameIndex (offsets ⟨consumed, rest, stop⟩)
          (offsets ⟨otherConsumed, otherRest, otherStop⟩)) Eq
        (readDotted path consumed stop rest).1
        (readDotted path otherConsumed otherStop otherRest).1 ∧
      Beside (readDotted path consumed stop rest).2
        (readDotted path otherConsumed otherStop otherRest).2 := by
  have passesDot : ∀ {dot : Token}, dot.isSpecial "." = true → dot.isBarrier = false := by
    intro dot isDot
    simp [Token.isBarrier, isDot]
  fun_induction readDotted path consumed stop rest generalizing otherConsumed otherRest with
  | case1 =>
    cases beside.alike
    exact ⟨.ok rfl, beside⟩
  | case2 path consumed dot isDot =>
    obtain ⟨otherDot, behind, rfl, same, later⟩ := beside.exists_cons
    have behindDot := later (passesDot isDot)
    have sameFault := sameIndex_faultOffset behindDot.samePosition
    cases behindDot.alike
    simp only [offsets_cons] at sameFault
    simp only [readDotted, ← same.isSpecial_eq, isDot, ↓reduceIte]
    exact ⟨.error sameFault, behindDot⟩
  | case3 path consumed dot noDot =>
    obtain ⟨otherDot, behind, rfl, same, -⟩ := beside.exists_cons
    rw [readDotted_of_not_dot (by simpa [← same.isSpecial_eq] using noDot)]
    exact ⟨.ok rfl, beside⟩
  | case4 path consumed dot part rest isDot isText inductionHypothesis =>
    obtain ⟨otherDot, _, rfl, sameDot, later⟩ := beside.exists_cons
    obtain ⟨otherPart, behind, rfl, samePart, behindPart⟩ := (later (passesDot isDot)).exists_cons
    have notBarrier : part.isBarrier = false := by simp [Token.isBarrier, isText]
    have agrees := inductionHypothesis (behindPart notBarrier)
    rw [samePart.value_eq] at agrees ⊢
    simpa only [readDotted, ← sameDot.isSpecial_eq, isDot, ← Token.isText_eq samePart.kinds,
      isText, ↓reduceIte, offsets_cons] using agrees
  | case5 path consumed dot part rest isDot noText =>
    obtain ⟨otherDot, _, rfl, sameDot, later⟩ := beside.exists_cons
    have behindDot := later (passesDot isDot)
    have sameFault := sameIndex_faultOffset behindDot.samePosition
    obtain ⟨otherPart, behind, rfl, samePart, -⟩ := behindDot.exists_cons
    simp only [offsets_cons] at sameFault
    simp only [readDotted, ← sameDot.isSpecial_eq, isDot, ← Token.isText_eq samePart.kinds,
      noText, ↓reduceIte]
    exact ⟨.error sameFault, behindDot⟩
  | case6 path consumed dot part rest noDot =>
    obtain ⟨otherDot, behind, rfl, same, -⟩ := beside.exists_cons
    rw [readDotted_of_not_dot (by simpa [← same.isSpecial_eq] using noDot)]
    exact ⟨.ok rfl, beside⟩

theorem readMember_beside
    {reader other : Reader}
    (beside : Beside reader other) (kind : Member.Kind) :
    Agrees (SameIndex reader.offsets other.offsets) Eq (reader.readMember kind).1
        (other.readMember kind).1 ∧
      Beside (reader.readMember kind).2 (other.readMember kind).2 := by
  have textRead := readText_beside beside
  cases kind with
  | text => exact textRead
  | reference =>
    have reached := (reaches_readText reader).offsets_eq
    have otherReached := (reaches_readText other).offsets_eq
    simp only [readMember, readReference]
    generalize reader.readText = found at textRead reached
    generalize other.readText = otherFound at textRead otherReached
    obtain ⟨value, next⟩ := found
    obtain ⟨otherValue, otherNext⟩ := otherFound
    obtain ⟨agrees, nextBeside⟩ := textRead
    cases agrees with
    | error sameOffset => exact ⟨.error sameOffset, nextBeside⟩
    | ok isEqual =>
      rw [← reached, ← otherReached, isEqual]
      exact readDotted_beside nextBeside

end Reader

/-- A keyword introduces the same types in whatever case it is written. -/
theorem Catalog.typesFor_congr
    (catalog : Catalog) {word other : String}
    (isSame : sameKeyword word other = true) :
    catalog.typesFor word = catalog.typesFor other := by
  have sameLetters : word.toList.map Char.toLower = other.toList.map Char.toLower :=
    of_decide_eq_true isSame
  unfold typesFor ConceptType.matchesKeyword sameKeyword
  rw [sameLetters]

namespace Parse

open Token (Alike SameIndex)

/-! ## Concepts -/

/-- The same concept, and places behind it that are beside each other. -/
def SameReading (reading other : Concept × Reader) : Prop :=
  reading.1 = other.1 ∧ reading.2.Beside other.2

theorem readMembers_beside
    {reader other : Reader}
    (beside : reader.Beside other) (type : ConceptType) (values : List String)
    (members : List Member) :
    Agrees (SameIndex reader.offsets other.offsets) SameReading
      (readMembers type values members reader).2 (readMembers type values members other).2 := by
  induction members generalizing reader other values with
  | nil => exact .ok ⟨rfl, beside⟩
  | cons member members inductionHypothesis =>
    have memberRead := Reader.readMember_beside beside member.kind
    have reached := (Reader.reaches_readMember reader member.kind).offsets_eq
    have otherReached := (Reader.reaches_readMember other member.kind).offsets_eq
    simp only [readMembers]
    generalize reader.readMember member.kind = found at memberRead reached
    generalize other.readMember member.kind = otherFound at memberRead otherReached
    obtain ⟨value, next⟩ := found
    obtain ⟨otherValue, otherNext⟩ := otherFound
    obtain ⟨agrees, nextBeside⟩ := memberRead
    cases agrees with
    | error sameOffset => exact .error sameOffset
    | ok isEqual =>
      rw [← reached, ← otherReached, isEqual]
      exact inductionHypothesis nextBeside _

/-! ## The choice between types -/

theorem SameChoice.of_forall₂
    {α β : Type} {together : α → β → Prop} {found : List α} {others : List β}
    (areTogether : List.Forall₂ together found others) :
    SameChoice together found others := by
  match areTogether with
  | .nil => exact .none
  | .cons first .nil => exact .single first
  | .cons _ (.cons _ _) => exact .several

theorem longest_beside
    {found others : List (Concept × Reader)}
    (areSame : List.Forall₂ SameReading found others) :
    List.Forall₂ SameReading (longest found) (longest others) := by
  have sameBound : ∀ bound, (found.all fun reading => reading.2.position ≤ bound) =
      others.all fun reading => reading.2.position ≤ bound := by
    intro bound
    induction areSame with
    | nil => rfl
    | cons isSame _ inductionHypothesis =>
      rw [List.all_cons, List.all_cons, inductionHypothesis, isSame.2.samePosition]
  apply List.rel_filter ?_ areSame
  intro reading other isSame
  dsimp only
  rw [sameBound, isSame.2.samePosition]

variable {same : Nat → Nat → Prop}

theorem readings_beside
    {attempts others : List Attempt}
    (agree : List.Forall₂ (fun left right => Agrees same SameReading left.2 right.2)
      attempts others) :
    List.Forall₂ SameReading (readings attempts) (readings others) := by
  apply List.rel_filterMap ?_ agree
  rintro ⟨_, result⟩ ⟨_, otherResult⟩ agrees
  cases agrees with
  | ok isSame => exact .some isSame
  | error _ => exact .none

theorem faults_beside
    {attempts others : List Attempt}
    (agree : List.Forall₂ (fun left right => Agrees same SameReading left.2 right.2)
      attempts others) :
    List.Forall₂ (fun fault other => same fault.offset other.offset) (faults attempts)
      (faults others) := by
  apply List.rel_filterMap ?_ agree
  rintro ⟨_, result⟩ ⟨_, otherResult⟩ agrees
  cases agrees with
  | ok _ => exact .none
  | error sameOffset => exact .some sameOffset

theorem exists_partner
    {α β : Type} {together : α → β → Prop} {found : List α} {others : List β} {value : α}
    (areTogether : List.Forall₂ together found others)
    (isFound : value ∈ found) :
    ∃ other ∈ others, together value other := by
  induction areTogether with
  | nil => cases isFound
  | cons isTogether _ inductionHypothesis =>
    rcases List.mem_cons.1 isFound with rfl | isLater
    · exact ⟨_, List.mem_cons_self, isTogether⟩
    · obtain ⟨other, isOther, otherTogether⟩ := inductionHypothesis isLater
      exact ⟨other, List.mem_cons_of_mem _ isOther, otherTogether⟩

/-- From readers at keywords of the same letters, with tokens behind them that say the same, the
same concept is read, or it is refused at the same token. -/
theorem readConcept_beside
    {reader other : Reader} {keyword otherKeyword : Token} {tail otherTail : List Token}
    (catalog : Catalog) (stack : List Concept)
    (isRest : reader.rest = keyword :: tail)
    (isOtherRest : other.rest = otherKeyword :: otherTail)
    (samePosition : reader.position = other.position)
    (ascend : reader.offsets.Pairwise (· < ·))
    (otherAscend : other.offsets.Pairwise (· < ·))
    (kinds : keyword.kind.Interchangeable otherKeyword.kind)
    (sameLetters : sameKeyword keyword.value otherKeyword.value = true)
    (alike : Alike tail otherTail) :
    Agrees (SameIndex reader.offsets other.offsets) SameReading
      (readConcept catalog stack reader keyword).2
      (readConcept catalog stack other otherKeyword).2 := by
  have sameStart := Reader.sameIndex_faultOffset samePosition
  obtain ⟨consumed, rest, stop⟩ := reader
  obtain ⟨otherConsumed, otherRest, otherStop⟩ := other
  subst isRest isOtherRest
  have sameText := Token.isText_eq kinds
  have sameTypes := catalog.typesFor_congr sameLetters
  by_cases isText : keyword.isText = true
  · have behind : Reader.Beside ⟨keyword :: consumed, tail, stop⟩
        ⟨otherKeyword :: otherConsumed, otherTail, otherStop⟩ :=
      ⟨congrArg Nat.succ samePosition, alike⟩
    have attemptsAgree : List.Forall₂ (fun left right => Agrees
          (SameIndex (Reader.offsets ⟨consumed, keyword :: tail, stop⟩)
            (Reader.offsets ⟨otherConsumed, otherKeyword :: otherTail, otherStop⟩))
          SameReading left.2 right.2)
        (attemptsAt catalog stack ⟨consumed, keyword :: tail, stop⟩ keyword)
        (attemptsAt catalog stack ⟨otherConsumed, otherKeyword :: otherTail, otherStop⟩
          otherKeyword) := by
      unfold attemptsAt
      rw [sameTypes, List.forall₂_map_left_iff, List.forall₂_map_right_iff, List.forall₂_same]
      intro type _
      have agrees := readMembers_beside behind type [] type.members
      rwa [Reader.offsets_cons, Reader.offsets_cons] at agrees
    rw [readConcept_of_isText isText, readConcept_of_isText (sameText ▸ isText)]
    apply choose_agrees sameStart
    · rw [sameTypes]
    · exact .of_forall₂ (longest_beside (readings_beside attemptsAgree))
    · have inPairs := faults_beside attemptsAgree
      apply furthest_agrees (Token.SameIndex.le ascend otherAscend)
      · exact fun fault isFault => exists_partner inPairs isFault
      · exact fun fault isFault => exists_partner inPairs.flip isFault
  · simp only [readConcept, isText, ← sameText]
    exact .error sameStart

end Parse

end ConceptScript
