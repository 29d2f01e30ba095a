import ConceptScript.Proofs.Token.Span
import ConceptScript.Proofs.Token.Spelling

/-!
Contract: a scan is the one way to lay tokens over a text.

Tokens cover whole characters that spell them, and what they leave free in front of the fault is
blank. At a fault nothing is spelled. This is a property of tokens and characters alone. The laws
below take a text apart in front: blanks, the end, a fault, or a token with the text behind it.

Owns that the scan of a text has this property and that nothing else has it.

Does not own the spelling of a single token.
-/

set_option autoImplicit false

namespace ConceptScript

namespace Text

theorem eq_nil_of_byteSize
    {chars : List Char}
    (noBytes : byteSize chars = 0) :
    chars = [] := by
  cases chars with
  | nil => rfl
  | cons c rest =>
    have size := byteSize_pos (List.cons_ne_nil c rest)
    omega

/-- Of two ways to cut a text in two, the one with the longer front cuts the other's back. -/
theorem exists_append_of_byteSize_le
    {front back shorter longer : List Char}
    (same : front ++ back = shorter ++ longer)
    (le : byteSize shorter ≤ byteSize front) :
    ∃ between, front = shorter ++ between ∧ longer = between ++ back := by
  rcases List.append_eq_append_iff.1 same with ⟨between, isShorter, isBack⟩ | found
  · have noBytes : byteSize between = 0 := by
      have size := congrArg byteSize isShorter
      rw [byteSize_append] at size
      omega
    obtain rfl := eq_nil_of_byteSize noBytes
    exact ⟨[], by simp [isShorter], by simpa using isBack.symm⟩
  · exact found

end Text

theorem Token.covers_iff (token : Token) (offset : Nat) :
    token.covers offset = true ↔ token.start ≤ offset ∧ offset < token.stop := by
  simp [Token.covers]

namespace Scan

open Lexeme (Spelled)

/-- Tokens and a fault, laid over characters of which the first stands at an offset. -/
structure Tiles (offset : Nat) (chars : List Char) (scan : Scan) : Prop where
  notEmpty : ∀ token ∈ scan.raw, token.start < token.stop
  ordered : scan.raw.Pairwise fun earlier later => earlier.stop ≤ later.start
  /-- A token covers whole characters, which spell it and no other token. -/
  spelled : ∀ token ∈ scan.raw, ∃ front spelling rest,
    chars = front ++ (spelling ++ rest) ∧
      token.start = offset + Text.byteSize front ∧
      token.stop = token.start + Text.byteSize spelling ∧
      Spelled token.kind token.value.toList spelling rest ∧
      ∀ kind value behind, Spelled kind value spelling behind →
        kind = token.kind ∧ value = token.value.toList
  /-- What no token covers is blank, up to the fault or the end. -/
  covered : ∀ front c rest, chars = front ++ c :: rest →
    offset + Text.byteSize front <
      scan.fault.elim (offset + Text.byteSize chars) Fault.offset →
    Text.isBlank c = true ∨ ∃ token ∈ scan.raw, token.covers (offset + Text.byteSize front) = true
  /-- A fault stands behind all tokens, at a character from which on no token is spelled. -/
  broken : ∀ fault ∈ scan.fault, ∃ front c rest,
    chars = front ++ c :: rest ∧
      fault.offset = offset + Text.byteSize front ∧
      (∀ token ∈ scan.raw, token.stop ≤ fault.offset) ∧
      Text.isBlank c = false ∧
      (∀ kind value spelling behind, Spelled kind value spelling behind →
        spelling ++ behind ≠ c :: rest) ∧
      fault.cause = if Lexeme.isQuote c then .unclosedString c else .unexpectedCharacter c

namespace Tiles

variable {offset : Nat} {chars : List Char} {scan : Scan}

theorem start_le
    (tiles : Tiles offset chars scan) :
    ∀ token ∈ scan.raw, offset ≤ token.start := by
  intro token member
  obtain ⟨front, spelling, rest, -, isStart, -⟩ := tiles.spelled token member
  omega

/-- At the first character, either there is a fault or a token starts. -/
theorem first
    {c : Char} {rest : List Char}
    (tiles : Tiles offset (c :: rest) scan)
    (notBlank : Text.isBlank c = false) :
    (∃ fault ∈ scan.fault, fault.offset = offset) ∨
      ∃ token ∈ scan.raw, token.start = offset := by
  by_cases isInside : offset < scan.fault.elim (offset + Text.byteSize (c :: rest)) Fault.offset
  · rcases tiles.covered [] c rest rfl isInside with isBlank | ⟨token, member, covers⟩
    · rw [notBlank] at isBlank
      cases isBlank
    · refine .inr ⟨token, member, ?_⟩
      have isBehind := tiles.start_le token member
      have startsBefore := ((token.covers_iff _).1 covers).1
      simp only [Text.byteSize] at startsBefore
      omega
  · cases isFault : scan.fault with
    | none =>
      have size := Text.byteSize_pos (List.cons_ne_nil c rest)
      rw [isFault, Option.elim_none] at isInside
      omega
    | some fault =>
      refine .inl ⟨fault, rfl, ?_⟩
      obtain ⟨front, -, -, -, isOffset, -⟩ := tiles.broken fault isFault
      rw [isFault, Option.elim_some] at isInside
      omega

end Tiles

/-! ## Blanks in front -/

theorem tiles_of_blanks
    {offset : Nat} {blanks chars : List Char} {scan : Scan}
    (allBlank : ∀ c ∈ blanks, Text.isBlank c = true)
    (tiles : Tiles (offset + Text.byteSize blanks) chars scan) :
    Tiles offset (blanks ++ chars) scan where
  notEmpty := tiles.notEmpty
  ordered := tiles.ordered
  spelled := by
    intro token member
    obtain ⟨front, spelling, rest, isChars, isStart, isStop⟩ := tiles.spelled token member
    refine ⟨blanks ++ front, spelling, rest, by simp [isChars], ?_, isStop⟩
    rw [Text.byteSize_append, isStart, Nat.add_assoc]
  covered := by
    intro front c rest isSplit isInside
    by_cases inBlanks : Text.byteSize blanks ≤ Text.byteSize front
    · obtain ⟨between, rfl, isChars⟩ := Text.exists_append_of_byteSize_le isSplit.symm inBlanks
      rw [Text.byteSize_append, Text.byteSize_append, ← Nat.add_assoc, ← Nat.add_assoc] at isInside
      rw [Text.byteSize_append, ← Nat.add_assoc]
      exact tiles.covered between c rest isChars isInside
    · left
      obtain ⟨between, isBlanks, isRest⟩ :=
        Text.exists_append_of_byteSize_le isSplit (Nat.le_of_not_le inBlanks)
      cases between with
      | nil =>
        rw [isBlanks, List.append_nil] at inBlanks
        exact absurd (Nat.le_refl _) inBlanks
      | cons d between =>
        obtain ⟨rfl, -⟩ := List.cons.inj isRest
        exact allBlank c (by simp [isBlanks])
  broken := by
    intro fault isFault
    obtain ⟨front, c, rest, isChars, isOffset, others⟩ := tiles.broken fault isFault
    refine ⟨blanks ++ front, c, rest, by simp [isChars], ?_, others⟩
    rw [Text.byteSize_append, isOffset, Nat.add_assoc]

/-- A place with another character than a blank lies behind the blanks in front. -/
theorem exists_append_of_not_blank
    {blanks chars front back : List Char}
    (allBlank : ∀ c ∈ blanks, Text.isBlank c = true)
    (same : blanks ++ chars = front ++ back)
    (notBlank : ∀ c ∈ back.head?, Text.isBlank c = false) :
    ∃ between, front = blanks ++ between ∧ chars = between ++ back := by
  apply Text.exists_append_of_byteSize_le same.symm
  apply Nat.le_of_not_lt
  intro isShorter
  obtain ⟨between, isBlanks, isBack⟩ :=
    Text.exists_append_of_byteSize_le same (Nat.le_of_lt isShorter)
  cases between with
  | nil =>
    rw [isBlanks, List.append_nil] at isShorter
    exact absurd isShorter (Nat.lt_irrefl _)
  | cons c between =>
    have isBlank := allBlank c (by simp [isBlanks])
    rw [notBlank c (by simp [isBack])] at isBlank
    cases isBlank

theorem Tiles.behind_blanks
    {offset : Nat} {blanks chars : List Char} {scan : Scan}
    (allBlank : ∀ c ∈ blanks, Text.isBlank c = true)
    (tiles : Tiles offset (blanks ++ chars) scan) :
    Tiles (offset + Text.byteSize blanks) chars scan where
  notEmpty := tiles.notEmpty
  ordered := tiles.ordered
  spelled := by
    intro token member
    obtain ⟨front, spelling, rest, isSplit, isStart, isStop, isSpelled, others⟩ :=
      tiles.spelled token member
    obtain ⟨between, rfl, isChars⟩ :=
      exists_append_of_not_blank allBlank isSplit isSpelled.first_not_blank
    refine ⟨between, spelling, rest, isChars, ?_, isStop, isSpelled, others⟩
    rw [isStart, Text.byteSize_append, Nat.add_assoc]
  covered := by
    intro front c rest isChars isInside
    have found := tiles.covered (blanks ++ front) c rest (by simp [isChars])
    rw [Text.byteSize_append, Text.byteSize_append, ← Nat.add_assoc, ← Nat.add_assoc] at found
    exact found isInside
  broken := by
    intro fault isFault
    obtain ⟨front, c, rest, isSplit, isOffset, isBehind, notBlank, others⟩ :=
      tiles.broken fault isFault
    obtain ⟨between, rfl, isChars⟩ :=
      exists_append_of_not_blank allBlank isSplit (by simpa using notBlank)
    refine ⟨between, c, rest, isChars, ?_, isBehind, notBlank, others⟩
    rw [isOffset, Text.byteSize_append, Nat.add_assoc]

/-! ## The end -/

theorem tiles_nil_iff (offset : Nat) (scan : Scan) :
    Tiles offset [] scan ↔ scan = ⟨[], none⟩ := by
  constructor
  · intro tiles
    have noTokens : scan.raw = [] := by
      apply List.eq_nil_iff_forall_not_mem.2
      intro token member
      obtain ⟨front, spelling, rest, isChars, -, -, isSpelled, -⟩ := tiles.spelled token member
      simp only [List.nil_eq, List.append_eq_nil_iff] at isChars
      exact isSpelled.ne_nil isChars.2.1
    have noFault : scan.fault = none := by
      apply Option.eq_none_iff_forall_not_mem.2
      intro fault isFault
      obtain ⟨front, c, rest, isChars, -⟩ := tiles.broken fault isFault
      simp at isChars
    show (⟨scan.raw, scan.fault⟩ : Scan) = ⟨[], none⟩
    rw [noTokens, noFault]
  · rintro rfl
    exact ⟨by simp, .nil, by simp, by simp, by simp⟩

/-! ## A fault in front -/

theorem tiles_of_fault
    (offset : Nat) {c : Char} {rest : List Char} {cause : Fault.Cause}
    (notBlank : Text.isBlank c = false)
    (failed : Lexeme.read (c :: rest) = some (.error cause)) :
    Tiles offset (c :: rest) ⟨[], some ⟨cause, offset⟩⟩ where
  notEmpty := by simp
  ordered := .nil
  spelled := by simp
  covered := by
    intro front d behind _ isInside
    simp only [Option.elim_some] at isInside
    omega
  broken := by
    intro fault isFault
    obtain rfl := Option.mem_some_iff.1 isFault
    refine ⟨[], c, rest, rfl, rfl, by simp, notBlank, ?_, ?_⟩
    · intro kind value spelling behind isSpelled
      exact Lexeme.not_spelled_of_read failed isSpelled
    · exact Lexeme.cause_of_fails (Lexeme.fails_of_read failed)

theorem Tiles.eq_of_fault
    {offset : Nat} {c : Char} {rest : List Char} {cause : Fault.Cause} {scan : Scan}
    (tiles : Tiles offset (c :: rest) scan)
    (notBlank : Text.isBlank c = false)
    (failed : Lexeme.read (c :: rest) = some (.error cause)) :
    scan = ⟨[], some ⟨cause, offset⟩⟩ := by
  rcases tiles.first notBlank with ⟨fault, isFault, isOffset⟩ | ⟨token, member, isFirst⟩
  · obtain ⟨front, d, behind, isChars, isFront, isBehind, -, -, isCause⟩ :=
      tiles.broken fault isFault
    obtain rfl := Text.eq_nil_of_byteSize (show Text.byteSize front = 0 by omega)
    obtain ⟨rfl, rfl⟩ := List.cons.inj isChars
    have noTokens : scan.raw = [] := by
      apply List.eq_nil_iff_forall_not_mem.2
      intro token member
      have startsBehind := tiles.start_le token member
      have stopsBefore := isBehind token member
      have notEmpty := tiles.notEmpty token member
      omega
    have sameCause := Lexeme.cause_of_fails (Lexeme.fails_of_read failed)
    have isSome : scan.fault = some ⟨cause, offset⟩ := by
      rw [Option.mem_def.1 isFault, sameCause, ← isCause, ← isOffset]
    show (⟨scan.raw, scan.fault⟩ : Scan) = ⟨[], some ⟨cause, offset⟩⟩
    rw [noTokens, isSome]
  · obtain ⟨front, spelling, behind, isChars, isStart, -, isSpelled, -⟩ :=
      tiles.spelled token member
    obtain rfl := Text.eq_nil_of_byteSize (show Text.byteSize front = 0 by omega)
    rw [List.nil_append] at isChars
    exact absurd isChars.symm (Lexeme.not_spelled_of_read failed isSpelled)

/-! ## A token in front -/

theorem tiles_of_lexeme
    {offset : Nat} {chars after : List Char} {lexeme : Lexeme} {later : Scan}
    (found : Lexeme.read chars = some (.ok (lexeme, after)))
    (tiles : Tiles (offset + Text.byteSize lexeme.spelling) after later) :
    Tiles offset chars ⟨lexeme.token offset :: later.raw, later.fault⟩ := by
  obtain ⟨isChars, notEmpty⟩ := Lexeme.read_spelling found
  have size := Text.byteSize_pos notEmpty
  subst isChars
  refine ⟨?_, ?_, ?_, ?_, ?_⟩
  · intro token member
    rcases List.mem_cons.1 member with rfl | member
    · simp only [Lexeme.token]
      omega
    · exact tiles.notEmpty token member
  · apply List.pairwise_cons.2
    exact ⟨tiles.start_le, tiles.ordered⟩
  · intro token member
    rcases List.mem_cons.1 member with rfl | member
    · have isSpelled := (Lexeme.reads_of_read found).spelled
      refine ⟨[], lexeme.spelling, after, rfl, rfl, rfl, ?_, ?_⟩
      · simpa [Lexeme.token] using isSpelled
      · intro kind value behind otherSpelled
        simpa [Lexeme.token] using otherSpelled.unique isSpelled
    · obtain ⟨front, spelling, rest, rfl, isStart, isStop⟩ := tiles.spelled token member
      refine ⟨lexeme.spelling ++ front, spelling, rest, by simp, ?_, isStop⟩
      rw [isStart, Text.byteSize_append, Nat.add_assoc]
  · intro front c rest isSplit isInside
    by_cases inToken : Text.byteSize lexeme.spelling ≤ Text.byteSize front
    · obtain ⟨between, rfl, rfl⟩ := Text.exists_append_of_byteSize_le isSplit.symm inToken
      rw [Text.byteSize_append, Text.byteSize_append, ← Nat.add_assoc, ← Nat.add_assoc] at isInside
      rw [Text.byteSize_append, ← Nat.add_assoc]
      rcases tiles.covered between c rest rfl isInside with isBlank | ⟨token, member, covers⟩
      · exact .inl isBlank
      · exact .inr ⟨token, List.mem_cons_of_mem _ member, covers⟩
    · refine .inr ⟨_, List.mem_cons_self, (Token.covers_iff _ _).2 ?_⟩
      simp only [Lexeme.token]
      omega
  · intro fault isFault
    obtain ⟨front, c, rest, rfl, isOffset, isBehind, others⟩ := tiles.broken fault isFault
    refine ⟨lexeme.spelling ++ front, c, rest, by simp, ?_, ?_, others⟩
    · rw [isOffset, Text.byteSize_append, Nat.add_assoc]
    · intro token member
      rcases List.mem_cons.1 member with rfl | member
      · simp only [Lexeme.token]
        omega
      · exact isBehind token member

/-- Where a lexeme is spelled in front, the first token is that lexeme. -/
theorem Tiles.exists_cons_of_lexeme
    {offset : Nat} {chars after : List Char} {lexeme : Lexeme} {scan : Scan}
    (tiles : Tiles offset chars scan)
    (found : Lexeme.read chars = some (.ok (lexeme, after))) :
    ∃ later, scan.raw = lexeme.token offset :: later := by
  have isSpelled := (Lexeme.reads_of_read found).spelled
  obtain ⟨isWhole, notEmpty⟩ := Lexeme.read_spelling found
  obtain ⟨c, rest, isChars⟩ : ∃ c rest, chars = c :: rest := by
    cases isSpelling : lexeme.spelling with
    | nil => exact absurd isSpelling notEmpty
    | cons c spelling => exact ⟨c, spelling ++ after, by rw [← isWhole, isSpelling]; rfl⟩
  have notBlank : Text.isBlank c = false := by
    apply isSpelled.first_not_blank c
    rw [isWhole, isChars]
    rfl
  subst isChars
  rcases tiles.first notBlank with ⟨fault, isFault, isOffset⟩ | ⟨token, member, isFirst⟩
  · obtain ⟨front, d, behind, isSplit, isFront, -, -, notSpelled, -⟩ := tiles.broken fault isFault
    obtain rfl := Text.eq_nil_of_byteSize (show Text.byteSize front = 0 by omega)
    exact absurd (isWhole.trans isSplit) (notSpelled _ _ _ _ isSpelled)
  · obtain ⟨front, spelling, behind, isSplit, isStart, isStop, otherSpelled, -⟩ :=
      tiles.spelled token member
    obtain rfl := Text.eq_nil_of_byteSize (show Text.byteSize front = 0 by omega)
    have otherFound := otherSpelled.read
    rw [show spelling ++ behind = c :: rest from isSplit.symm, found] at otherFound
    obtain ⟨rfl, rfl⟩ := Prod.mk.inj (Except.ok.inj (Option.some.inj otherFound))
    have isToken : token = Lexeme.token ⟨token.kind, token.value.toList, spelling⟩ offset := by
      obtain ⟨kind, value, start, stop⟩ := token
      obtain rfl : start = offset := isFirst
      obtain rfl : stop = start + Text.byteSize spelling := isStop
      simp [Lexeme.token]
    cases isRaw : scan.raw with
    | nil => simp [isRaw] at member
    | cons head later =>
      refine ⟨later, ?_⟩
      rw [isRaw] at member
      rcases List.mem_cons.1 member with rfl | inLater
      · rw [← isToken]
      · -- another token in front of it would lie on bytes that the text does not have
        have ordered := tiles.ordered
        rw [isRaw] at ordered
        have isBehind := (List.pairwise_cons.1 ordered).1 token inLater
        have headStart := tiles.start_le head (by simp [isRaw])
        have headNotEmpty := tiles.notEmpty head (by simp [isRaw])
        omega

theorem Tiles.behind_lexeme
    {offset : Nat} {chars after : List Char} {lexeme : Lexeme} {later : List Token}
    {fault : Option Fault}
    (tiles : Tiles offset chars ⟨lexeme.token offset :: later, fault⟩)
    (found : Lexeme.read chars = some (.ok (lexeme, after))) :
    Tiles (offset + Text.byteSize lexeme.spelling) after ⟨later, fault⟩ := by
  obtain ⟨isChars, -⟩ := Lexeme.read_spelling found
  subst isChars
  obtain ⟨isBehind, ordered⟩ := List.pairwise_cons.1 tiles.ordered
  refine ⟨?_, ordered, ?_, ?_, ?_⟩
  · intro token member
    exact tiles.notEmpty token (List.mem_cons_of_mem _ member)
  · intro token member
    obtain ⟨front, spelling, rest, isSplit, isStart, isStop⟩ :=
      tiles.spelled token (List.mem_cons_of_mem _ member)
    have startsBehind := isBehind token member
    simp only [Lexeme.token] at startsBehind
    obtain ⟨between, rfl, isAfter⟩ :=
      Text.exists_append_of_byteSize_le isSplit.symm (by omega)
    refine ⟨between, spelling, rest, isAfter, ?_, isStop⟩
    rw [isStart, Text.byteSize_append, Nat.add_assoc]
  · intro front c rest isAfter isInside
    have found := tiles.covered (lexeme.spelling ++ front) c rest (by simp [isAfter])
    rw [Text.byteSize_append, Text.byteSize_append, ← Nat.add_assoc, ← Nat.add_assoc] at found
    rcases found isInside with isBlank | ⟨token, member, covers⟩
    · exact .inl isBlank
    · rcases List.mem_cons.1 member with rfl | member
      · have stopsBehind := ((Token.covers_iff _ _).1 covers).2
        simp only [Lexeme.token] at stopsBehind
        omega
      · exact .inr ⟨token, member, covers⟩
  · intro fault isFault
    obtain ⟨front, c, rest, isSplit, isOffset, stopsBefore, others⟩ := tiles.broken fault isFault
    have firstBefore := stopsBefore _ List.mem_cons_self
    simp only [Lexeme.token] at firstBefore
    obtain ⟨between, rfl, isAfter⟩ :=
      Text.exists_append_of_byteSize_le isSplit.symm (by omega)
    refine ⟨between, c, rest, isAfter, ?_, ?_, others⟩
    · rw [isOffset, Text.byteSize_append, Nat.add_assoc]
    · intro token member
      exact stopsBefore token (List.mem_cons_of_mem _ member)

/-! ## Whole texts -/

theorem takeWhile_isBlank (chars : List Char) :
    ∀ c ∈ chars.takeWhile Text.isBlank, Text.isBlank c = true := by
  intro c member
  exact List.all_eq_true.1 List.all_takeWhile c member

theorem tiles_iff_behind_blanks (offset : Nat) (chars : List Char) (scan : Scan) :
    Tiles offset chars scan ↔
      Tiles (offset + Text.byteSize (chars.takeWhile Text.isBlank)) (chars.dropWhile Text.isBlank)
        scan := by
  have whole := List.takeWhile_append_dropWhile (p := Text.isBlank) (l := chars)
  constructor
  · intro tiles
    rw [← whole] at tiles
    exact tiles.behind_blanks (takeWhile_isBlank chars)
  · intro tiles
    rw [← whole]
    exact tiles_of_blanks (takeWhile_isBlank chars) tiles

/-- At a fault there is a first character, which is no blank. -/
theorem exists_cons_of_fault
    {chars : List Char} {cause : Fault.Cause}
    (failed : Lexeme.read (chars.dropWhile Text.isBlank) = some (.error cause)) :
    ∃ c rest, chars.dropWhile Text.isBlank = c :: rest ∧ Text.isBlank c = false := by
  cases isBehind : chars.dropWhile Text.isBlank with
  | nil => simp [isBehind, Lexeme.read] at failed
  | cons c rest =>
    refine ⟨c, rest, rfl, ?_⟩
    have isFirst : c ∈ (chars.dropWhile Text.isBlank).head? := by simp [isBehind]
    exact Lexeme.head?_dropWhile isFirst

theorem tiles_iff_eq_ofCharsFrom (offset : Nat) (chars : List Char) (scan : Scan) :
    Tiles offset chars scan ↔ scan = ofCharsFrom offset chars := by
  fun_induction ofCharsFrom offset chars generalizing scan with
  | case1 offset chars nothing =>
    rw [tiles_iff_behind_blanks, (Lexeme.read_eq_none_iff _).1 nothing, tiles_nil_iff]
  | case2 offset chars start cause failed =>
    obtain ⟨c, rest, isBehind, notBlank⟩ := exists_cons_of_fault failed
    rw [tiles_iff_behind_blanks, isBehind]
    rw [isBehind] at failed
    constructor
    · intro tiles
      exact tiles.eq_of_fault notBlank failed
    · rintro rfl
      exact tiles_of_fault start notBlank failed
  | case3 offset chars start lexeme after found stop later inductionHypothesis =>
    rw [tiles_iff_behind_blanks]
    constructor
    · intro tiles
      obtain ⟨tokens, isRaw⟩ := tiles.exists_cons_of_lexeme found
      obtain ⟨raw, fault⟩ := scan
      obtain rfl : raw = lexeme.token start :: tokens := isRaw
      have isLater : (⟨tokens, fault⟩ : Scan) = later :=
        (inductionHypothesis _).1 (tiles.behind_lexeme found)
      rw [← isLater]
      rfl
    · rintro rfl
      exact tiles_of_lexeme found ((inductionHypothesis later).2 rfl)

/-- The tokens and the fault of a text can be laid over it, and nothing else can. -/
theorem tiles_ofChars_unique (chars : List Char) :
    Tiles 0 chars (ofChars chars) ∧ ∀ scan, Tiles 0 chars scan → scan = ofChars chars := by
  refine ⟨?_, ?_⟩
  · exact (tiles_iff_eq_ofCharsFrom 0 chars _).2 rfl
  · intro scan tiles
    exact (tiles_iff_eq_ofCharsFrom 0 chars scan).1 tiles

end Scan

end ConceptScript
