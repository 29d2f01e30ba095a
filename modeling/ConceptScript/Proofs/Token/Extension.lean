import ConceptScript.Proofs.Text.Cut
import ConceptScript.Token.Scan

/-!
Contract: what a scan of a text says about the scan of a longer one.

A lexeme that is read in front of other characters is read in the same way whatever follows those.
No lexeme ends in a line feed, so this holds of every lexeme of a text that ends in one.

Owns the scan of a text behind a text that is scanned without fault and ends in a line feed, and
behind a text with a fault.

Does not own where lexemes lie.
-/

set_option autoImplicit false

namespace ConceptScript

namespace Lexeme

/-! ## Characters that are taken in a row -/

theorem takeWhile_append_of_stops
    {taken : Char → Bool} {chars : List Char}
    (stops : chars.dropWhile taken ≠ []) (tail : List Char) :
    (chars ++ tail).takeWhile taken = chars.takeWhile taken := by
  induction chars with
  | nil => exact absurd rfl stops
  | cons c chars inductionHypothesis =>
    by_cases isTaken : taken c = true
    · simp only [List.dropWhile_cons, isTaken, ↓reduceIte] at stops
      simp [isTaken, inductionHypothesis stops]
    · simp [isTaken]

theorem dropWhile_append_of_stops
    {taken : Char → Bool} {chars : List Char}
    (stops : chars.dropWhile taken ≠ []) (tail : List Char) :
    (chars ++ tail).dropWhile taken = chars.dropWhile taken ++ tail := by
  simp [List.dropWhile_append, stops]

/-! ## The forms of a lexeme -/

/-- The form of the lexeme in front of some characters. No two forms have the same first character,
so it does not matter in which order they are tried. -/
inductive Reads : List Char → Lexeme → List Char → Prop where
  | comment (rest : List Char) :
      Reads ('/' :: '/' :: rest)
        ⟨.comment, rest.takeWhile fun c => !isLineEnd c,
          '/' :: '/' :: rest.takeWhile fun c => !isLineEnd c⟩
        (rest.dropWhile fun c => !isLineEnd c)
  | literal {mark : Char} {rest value after : List Char}
      (isOpened : isQuote mark = true)
      (isClosed : unquote mark rest = some (value, after)) :
      Reads (mark :: rest) ⟨.stringLiteral, value, mark :: doubled mark value ++ [mark]⟩ after
  | special {mark : Char} (isSpecial : isMark mark = true) (rest : List Char) :
      Reads (mark :: rest) ⟨.special, [mark], [mark]⟩ rest
  | name {first : Char} (isName : isNameChar first = true) (rest : List Char) :
      Reads (first :: rest)
        ⟨.identifier, first :: rest.takeWhile isNameChar, first :: rest.takeWhile isNameChar⟩
        (rest.dropWhile isNameChar)

theorem comment?_eq_none_of_ne
    {c : Char} (notSlash : c ≠ '/') (rest : List Char) :
    comment? (c :: rest) = none := by
  unfold comment?
  split
  · next isSlashes => exact absurd (List.cons.inj isSlashes).1 notSlash
  · rfl

theorem isQuote_cases {c : Char} (isOpened : isQuote c = true) : c = '"' ∨ c = '\'' := by
  simpa [isQuote] using isOpened

theorem isMark_cases
    {c : Char} (isSpecial : isMark c = true) :
    c = '\x7b' ∨ c = '\x7d' ∨ c = ';' ∨ c = '.' := by
  simpa [isMark, or_assoc] using isSpecial

theorem not_isNameChar_of_isQuote {c : Char} (isOpened : isQuote c = true) :
    isNameChar c = false := by
  rcases isQuote_cases isOpened with rfl | rfl <;> decide

theorem not_isNameChar_of_isMark {c : Char} (isSpecial : isMark c = true) :
    isNameChar c = false := by
  rcases isMark_cases isSpecial with rfl | rfl | rfl | rfl <;> decide

theorem not_isQuote_of_isMark {c : Char} (isSpecial : isMark c = true) : isQuote c = false := by
  rcases isMark_cases isSpecial with rfl | rfl | rfl | rfl <;> decide

theorem read_of_reads
    {chars after : List Char} {lexeme : Lexeme}
    (reads : Reads chars lexeme after) :
    read chars = some (.ok (lexeme, after)) := by
  cases reads with
  | comment rest => rfl
  | @literal mark rest value after isOpened isClosed =>
    have notSlash : mark ≠ '/' := by
      rcases isQuote_cases isOpened with rfl | rfl <;> decide
    simp [read, comment?_eq_none_of_ne notSlash, isOpened, isClosed]
  | @special mark isSpecial rest =>
    have notSlash : mark ≠ '/' := by
      rcases isMark_cases isSpecial with rfl | rfl | rfl | rfl <;> decide
    simp [read, comment?_eq_none_of_ne notSlash, not_isQuote_of_isMark isSpecial, isSpecial]
  | @name first isName rest =>
    have notSlash : first ≠ '/' := by
      rintro rfl
      exact absurd isName (by decide)
    have notQuote : isQuote first = false := by
      by_cases isOpened : isQuote first = true
      · simp [not_isNameChar_of_isQuote isOpened] at isName
      · simpa using isOpened
    have notMark : isMark first = false := by
      by_cases isSpecial : isMark first = true
      · simp [not_isNameChar_of_isMark isSpecial] at isName
      · simpa using isSpecial
    simp [read, comment?_eq_none_of_ne notSlash, notQuote, notMark, isName]

theorem reads_of_read
    {chars after : List Char} {lexeme : Lexeme}
    (found : read chars = some (.ok (lexeme, after))) :
    Reads chars lexeme after := by
  unfold read at found
  split at found
  · cases found
  · next c rest =>
    split at found
    · next comment isComment =>
      obtain rfl := Except.ok.inj (Option.some.inj found)
      unfold comment? at isComment
      split at isComment
      · next behind isSlashes =>
        obtain ⟨rfl, rfl⟩ := Prod.mk.inj (Option.some.inj isComment)
        rw [isSlashes]
        exact .comment behind
      · cases isComment
    · split at found
      · next isOpened =>
        split at found
        · next value behind isClosed =>
          obtain ⟨rfl, rfl⟩ := Prod.mk.inj (Except.ok.inj (Option.some.inj found))
          exact .literal isOpened isClosed
        · cases Option.some.inj found
      · split at found
        · next isSpecial =>
          obtain ⟨rfl, rfl⟩ := Prod.mk.inj (Except.ok.inj (Option.some.inj found))
          exact .special isSpecial rest
        · split at found
          · next isName =>
            obtain ⟨rfl, rfl⟩ := Prod.mk.inj (Except.ok.inj (Option.some.inj found))
            exact .name isName rest
          · cases Option.some.inj found

/-! ## Lexemes in front of other characters -/

theorem unquote_append
    {mark : Char} {chars value after : List Char}
    (closed : unquote mark chars = some (value, after))
    (goesOn : after ≠ []) (tail : List Char) :
    unquote mark (chars ++ tail) = some (value, after ++ tail) := by
  fun_induction unquote mark chars generalizing value after with
  | case1 => cases closed
  | case2 =>
    obtain ⟨rfl, rfl⟩ := Prod.mk.inj (Option.some.inj closed)
    exact absurd rfl goesOn
  | case3 => cases closed
  | case4 rest inductionHypothesis =>
    obtain ⟨⟨inner, behind⟩, innerClosed, same⟩ := Option.map_eq_some_iff.1 closed
    obtain ⟨rfl, rfl⟩ := Prod.mk.inj same
    simp [unquote, inductionHypothesis innerClosed goesOn]
  | case5 d rest other =>
    obtain ⟨rfl, rfl⟩ := Prod.mk.inj (Option.some.inj closed)
    simp [unquote, other]
  | case6 c d rest other inductionHypothesis =>
    obtain ⟨⟨inner, behind⟩, innerClosed, same⟩ := Option.map_eq_some_iff.1 closed
    obtain ⟨rfl, rfl⟩ := Prod.mk.inj same
    have later := inductionHypothesis innerClosed goesOn
    rw [List.cons_append] at later
    simp [unquote, other, later]

theorem Reads.append
    {chars after : List Char} {lexeme : Lexeme}
    (reads : Reads chars lexeme after)
    (goesOn : after ≠ []) (tail : List Char) :
    Reads (chars ++ tail) lexeme (after ++ tail) := by
  cases reads with
  | comment rest =>
    rw [← takeWhile_append_of_stops goesOn tail, ← dropWhile_append_of_stops goesOn tail]
    exact .comment (rest ++ tail)
  | literal isOpened isClosed => exact .literal isOpened (unquote_append isClosed goesOn tail)
  | special isSpecial => exact .special isSpecial (after ++ tail)
  | name isName rest =>
    rw [← takeWhile_append_of_stops goesOn tail, ← dropWhile_append_of_stops goesOn tail]
    exact .name isName (rest ++ tail)

/-- Comments and names are made of other characters, literals and marks end in another one. -/
theorem Reads.last_ne_lineFeed
    {chars after : List Char} {lexeme : Lexeme}
    (reads : Reads chars lexeme after) :
    lexeme.spelling.getLast? ≠ some '\n' := by
  intro isFeed
  cases reads with
  | comment rest =>
    have member := List.mem_of_getLast? isFeed
    simp only [List.mem_cons, Char.reduceEq, false_or] at member
    have notEnd := List.all_eq_true.1 List.all_takeWhile _ member
    exact absurd notEnd (by decide)
  | @literal mark rest value _ isOpened isClosed =>
    obtain rfl : mark = '\n' := by simpa [List.getLast?_cons] using isFeed
    exact absurd isOpened (by decide)
  | @special mark isSpecial =>
    obtain rfl : mark = '\n' := by simpa using isFeed
    exact absurd isSpecial (by decide)
  | @name first isName rest =>
    have named : '\n' ∈ first :: rest.takeWhile isNameChar := List.mem_of_getLast? isFeed
    have isNamed : isNameChar '\n' = true := by
      rcases List.mem_cons.1 named with rfl | member
      · exact isName
      · exact List.all_eq_true.1 List.all_takeWhile _ member
    exact absurd isNamed (by decide)

/-- Behind each lexeme of a text that ends in a line feed, there is still that line feed. -/
theorem Reads.rest_ends
    {chars after : List Char} {lexeme : Lexeme}
    (reads : Reads chars lexeme after)
    (endsInFeed : chars.getLast? = some '\n') :
    after.getLast? = some '\n' := by
  have whole := (read_spelling (read_of_reads reads)).1
  rw [← whole, List.getLast?_append] at endsInFeed
  cases isLast : after.getLast? with
  | none =>
    rw [isLast, Option.none_or] at endsInFeed
    exact absurd endsInFeed reads.last_ne_lineFeed
  | some last => simpa [isLast] using endsInFeed

/-! ## Faults in front of other characters -/

/-- The two ways in which there is no lexeme. -/
inductive Fails : List Char → Fault.Cause → Prop where
  | unclosed {mark : Char} {rest : List Char}
      (isOpened : isQuote mark = true)
      (isUnclosed : unquote mark rest = none) :
      Fails (mark :: rest) (.unclosedString mark)
  | unexpected {c : Char} {rest : List Char}
      (noComment : comment? (c :: rest) = none)
      (noQuote : isQuote c = false)
      (noMark : isMark c = false)
      (noName : isNameChar c = false) :
      Fails (c :: rest) (.unexpectedCharacter c)

theorem fails_of_read
    {chars : List Char} {cause : Fault.Cause}
    (failed : read chars = some (.error cause)) :
    Fails chars cause := by
  unfold read at failed
  split at failed
  · cases failed
  · next c rest =>
    split at failed
    · cases Option.some.inj failed
    · next noComment =>
      split at failed
      · next isOpened =>
        split at failed
        · cases Option.some.inj failed
        · next isUnclosed =>
          obtain rfl := Except.error.inj (Option.some.inj failed)
          exact .unclosed isOpened isUnclosed
      · next noQuote =>
        split at failed
        · cases Option.some.inj failed
        · next noMark =>
          split at failed
          · cases Option.some.inj failed
          · next noName =>
            obtain rfl := Except.error.inj (Option.some.inj failed)
            exact .unexpected noComment (by simpa using noQuote) (by simpa using noMark)
              (by simpa using noName)

/-- A literal that is not closed goes on into what follows. -/
theorem unquote_append_of_unclosed
    {mark : Char} {chars : List Char}
    (isUnclosed : unquote mark chars = none) :
    ∃ front, ∀ tail, unquote mark (chars ++ tail) =
      (unquote mark tail).map fun (value, after) => (front ++ value, after) := by
  fun_induction unquote mark chars with
  | case1 => exact ⟨[], by simp⟩
  | case2 => cases isUnclosed
  | case3 c other =>
    refine ⟨[c], fun tail => ?_⟩
    cases tail <;> simp [unquote, other]
  | case4 rest inductionHypothesis =>
    obtain ⟨front, isFront⟩ := inductionHypothesis (by simpa using isUnclosed)
    refine ⟨mark :: front, fun tail => ?_⟩
    simp [unquote, isFront, Function.comp_def]
  | case5 => cases isUnclosed
  | case6 c d rest other inductionHypothesis =>
    obtain ⟨front, isFront⟩ := inductionHypothesis (by simpa using isUnclosed)
    refine ⟨c :: front, fun tail => ?_⟩
    have later := isFront tail
    rw [List.cons_append] at later
    simp [unquote, other, later, Function.comp_def]

/-- A single slash is no comment yet, but two characters decide. -/
theorem comment?_append_eq_none
    {c : Char} {rest : List Char}
    (noComment : comment? (c :: rest) = none)
    (goesOn : rest ≠ []) (tail : List Char) :
    comment? (c :: (rest ++ tail)) = none := by
  cases rest with
  | nil => exact absurd rfl goesOn
  | cons d rest =>
    unfold comment? at noComment ⊢
    split at noComment
    · cases noComment
    · next notSlashes =>
      split
      · next behind isSlashes =>
        obtain ⟨rfl, isRest⟩ := List.cons.inj isSlashes
        obtain ⟨rfl, -⟩ := List.cons.inj isRest
        exact absurd rfl (notSlashes rest)
      · rfl

/-- A fault stays, unless the literal is closed in what follows. A slash at the end is no fault yet:
it may be the first one of a comment. -/
theorem Fails.append
    {chars : List Char} {cause : Fault.Cause}
    (fails : Fails chars cause)
    (isSettled : cause = .unexpectedCharacter '/' → chars.getLast? ≠ some '/') (tail : List Char) :
    read (chars ++ tail) = some (.error cause) ∨
      ∃ mark lexeme after, cause = .unclosedString mark ∧
        read (chars ++ tail) = some (.ok (lexeme, after)) ∧
        lexeme.kind = .stringLiteral ∧ Text.byteSize after < Text.byteSize tail := by
  cases fails with
  | @unclosed mark rest isOpened isUnclosed =>
    have notSlash : mark ≠ '/' := by
      rcases isQuote_cases isOpened with rfl | rfl <;> decide
    obtain ⟨front, isFront⟩ := unquote_append_of_unclosed isUnclosed
    cases later : unquote mark tail with
    | none =>
      left
      simp [read, comment?_eq_none_of_ne notSlash, isOpened, isFront, later]
    | some found =>
      obtain ⟨value, after⟩ := found
      have isClosed : unquote mark (rest ++ tail) = some (front ++ value, after) := by
        simp [isFront, later]
      refine .inr ⟨mark, _, after, rfl, read_of_reads (.literal isOpened isClosed), rfl, ?_⟩
      have quoteSize := Char.utf8Size_pos mark
      simp only [← unquote_spelling later, Text.byteSize_append, Text.byteSize]
      omega
  | @unexpected c rest noComment noQuote noMark noName =>
    left
    have stillNone : comment? (c :: (rest ++ tail)) = none := by
      by_cases isSlash : c = '/'
      · subst isSlash
        refine comment?_append_eq_none noComment ?_ tail
        rintro rfl
        exact isSettled rfl rfl
      · exact comment?_eq_none_of_ne isSlash (rest ++ tail)
    simp [read, stillNone, noQuote, noMark, noName]

theorem read_eq_none_iff (chars : List Char) : read chars = none ↔ chars = [] := by
  constructor
  · intro nothing
    unfold read at nothing
    split at nothing
    · rfl
    · split at nothing
      · cases nothing
      · split at nothing
        · split at nothing <;> cases nothing
        · split at nothing
          · cases nothing
          · split at nothing <;> cases nothing
  · rintro rfl
    rfl

end Lexeme

/-- The token of a lexeme that stands at an offset. -/
def Lexeme.token (lexeme : Lexeme) (start : Nat) : Token :=
  ⟨lexeme.kind, String.ofList lexeme.value, start, start + Text.byteSize lexeme.spelling⟩

namespace Scan

/-! ## One step of a scan -/

theorem ofCharsFrom_nil (offset : Nat) : ofCharsFrom offset [] = ⟨[], none⟩ := by
  simp [ofCharsFrom.eq_def, Lexeme.read]

theorem ofCharsFrom_of_fault
    {chars : List Char} {cause : Fault.Cause} (offset : Nat)
    (failed : Lexeme.read (chars.dropWhile Text.isBlank) = some (.error cause)) :
    ofCharsFrom offset chars =
      ⟨[], some ⟨cause, offset + Text.byteSize (chars.takeWhile Text.isBlank)⟩⟩ := by
  rw [ofCharsFrom.eq_def]
  dsimp only
  split
  · next nothing => simp [nothing] at failed
  · next other isOther =>
    rw [isOther] at failed
    rw [Except.error.inj (Option.some.inj failed)]
  · next found => simp [found] at failed

theorem ofCharsFrom_of_lexeme
    {chars after : List Char} {lexeme : Lexeme} {offset start : Nat}
    (isStart : start = offset + Text.byteSize (chars.takeWhile Text.isBlank))
    (found : Lexeme.read (chars.dropWhile Text.isBlank) = some (.ok (lexeme, after))) :
    ofCharsFrom offset chars =
      ⟨lexeme.token start ::
          (ofCharsFrom (start + Text.byteSize lexeme.spelling) after).raw,
        (ofCharsFrom (start + Text.byteSize lexeme.spelling) after).fault⟩ := by
  subst isStart
  rw [ofCharsFrom.eq_def]
  dsimp only
  split
  · next nothing => simp [nothing] at found
  · next isOther => simp [isOther] at found
  · next other behind isOther =>
    rw [isOther] at found
    obtain ⟨rfl, rfl⟩ := Prod.mk.inj (Except.ok.inj (Option.some.inj found))
    rfl

theorem ofCharsFrom_of_blank
    {blanks : List Char} (offset : Nat)
    (allBlank : blanks.dropWhile Text.isBlank = []) (chars : List Char) :
    ofCharsFrom offset (blanks ++ chars) = ofCharsFrom (offset + Text.byteSize blanks) chars := by
  have behind : (blanks ++ chars).dropWhile Text.isBlank = chars.dropWhile Text.isBlank := by
    simp [List.dropWhile_append, allBlank]
  have front : Text.byteSize ((blanks ++ chars).takeWhile Text.isBlank) =
      Text.byteSize blanks + Text.byteSize (chars.takeWhile Text.isBlank) := by
    have allTaken : blanks.takeWhile Text.isBlank = blanks := by
      simpa [allBlank] using List.takeWhile_append_dropWhile (p := Text.isBlank) (l := blanks)
    simp [List.takeWhile_append, allTaken]
  rw [ofCharsFrom.eq_def, ofCharsFrom.eq_def (offset + Text.byteSize blanks), behind, front,
    Nat.add_assoc]

/-! ## Texts that end in a line feed -/

theorem getLast?_dropWhile
    {taken : Char → Bool} {chars : List Char} {last : Char}
    (stops : chars.dropWhile taken ≠ [])
    (isLast : chars.getLast? = some last) :
    (chars.dropWhile taken).getLast? = some last := by
  have whole := List.takeWhile_append_dropWhile (p := taken) (l := chars)
  have isBehind := List.getLast?_eq_some_getLast stops
  rw [← whole, List.getLast?_append, isBehind, Option.some_or] at isLast
  rw [isBehind, isLast]

/-- The bytes of a lexeme, those of the blanks in front of it and those behind it are all. -/
theorem byteSize_of_read
    {chars after : List Char} {lexeme : Lexeme}
    (found : Lexeme.read (chars.dropWhile Text.isBlank) = some (.ok (lexeme, after))) :
    Text.byteSize (chars.takeWhile Text.isBlank) + Text.byteSize lexeme.spelling +
      Text.byteSize after = Text.byteSize chars := by
  have spelled := congrArg Text.byteSize (Lexeme.read_spelling found).1
  have whole := congrArg Text.byteSize
    (List.takeWhile_append_dropWhile (p := Text.isBlank) (l := chars))
  simp only [Text.byteSize_append] at spelled whole
  omega

/-- A token with other characters behind it is found whatever follows those. -/
theorem ofCharsFrom_append_of_goesOn
    {chars after : List Char} {lexeme : Lexeme} {offset start : Nat}
    (isStart : start = offset + Text.byteSize (chars.takeWhile Text.isBlank))
    (found : Lexeme.read (chars.dropWhile Text.isBlank) = some (.ok (lexeme, after)))
    (goesOn : after ≠ []) (tail : List Char) :
    ofCharsFrom offset (chars ++ tail) =
      ⟨lexeme.token start ::
          (ofCharsFrom (start + Text.byteSize lexeme.spelling) (after ++ tail)).raw,
        (ofCharsFrom (start + Text.byteSize lexeme.spelling) (after ++ tail)).fault⟩ := by
  have stops : chars.dropWhile Text.isBlank ≠ [] := by
    intro nothing
    simp [nothing, Lexeme.read] at found
  apply ofCharsFrom_of_lexeme
  · rw [isStart, Lexeme.takeWhile_append_of_stops stops]
  · rw [Lexeme.dropWhile_append_of_stops stops]
    exact Lexeme.read_of_reads ((Lexeme.reads_of_read found).append goesOn tail)

/-- In a text that ends in a line feed, what follows the text does not change its first token. -/
theorem ofCharsFrom_append_of_lexeme
    {chars after : List Char} {lexeme : Lexeme} {offset start : Nat}
    (isStart : start = offset + Text.byteSize (chars.takeWhile Text.isBlank))
    (found : Lexeme.read (chars.dropWhile Text.isBlank) = some (.ok (lexeme, after)))
    (endsInFeed : chars.getLast? = some '\n') (tail : List Char) :
    after.getLast? = some '\n' ∧
      ofCharsFrom offset (chars ++ tail) =
        ⟨lexeme.token start ::
            (ofCharsFrom (start + Text.byteSize lexeme.spelling) (after ++ tail)).raw,
          (ofCharsFrom (start + Text.byteSize lexeme.spelling) (after ++ tail)).fault⟩ := by
  have stops : chars.dropWhile Text.isBlank ≠ [] := by
    intro nothing
    simp [nothing, Lexeme.read] at found
  have afterEnds := (Lexeme.reads_of_read found).rest_ends (getLast?_dropWhile stops endsInFeed)
  have goesOn : after ≠ [] := by
    rintro rfl
    cases afterEnds
  exact ⟨afterEnds, ofCharsFrom_append_of_goesOn isStart found goesOn tail⟩

/-- Behind a text that is scanned without fault and ends in a line feed, the scan starts afresh. -/
theorem ofCharsFrom_append
    {offset : Nat} {chars : List Char}
    (endsInFeed : chars.getLast? = some '\n')
    (noFault : (ofCharsFrom offset chars).fault = none) (tail : List Char) :
    ofCharsFrom offset (chars ++ tail) =
      ⟨(ofCharsFrom offset chars).raw ++ (ofCharsFrom (offset + Text.byteSize chars) tail).raw,
        (ofCharsFrom (offset + Text.byteSize chars) tail).fault⟩ := by
  fun_induction ofCharsFrom offset chars with
  | case1 offset chars nothing =>
    exact ofCharsFrom_of_blank offset ((Lexeme.read_eq_none_iff _).1 nothing) tail
  | case2 => cases noFault
  | case3 offset chars start lexeme after found stop later inductionHypothesis =>
    obtain ⟨afterEnds, isScan⟩ := ofCharsFrom_append_of_lexeme rfl found endsInFeed tail
    have size : stop + Text.byteSize after = offset + Text.byteSize chars := by
      have whole := byteSize_of_read found
      omega
    have goneOn := inductionHypothesis afterEnds noFault
    rw [size] at goneOn
    rw [isScan, goneOn]
    rfl

/-! ## Texts with a fault -/

theorem getLast?_of_read
    {chars after : List Char} {lexeme : Lexeme}
    (found : Lexeme.read (chars.dropWhile Text.isBlank) = some (.ok (lexeme, after)))
    (goesOn : after ≠ []) :
    after.getLast? = chars.getLast? := by
  have spelled := (Lexeme.read_spelling found).1
  have whole := List.takeWhile_append_dropWhile (p := Text.isBlank) (l := chars)
  rw [← whole, ← spelled, List.getLast?_append, List.getLast?_append,
    List.getLast?_eq_some_getLast goesOn]
  rfl

/-- A fault of a text stays where it is whatever follows, unless it is an open literal that is
closed behind the text. A slash at the end is excepted. -/
theorem ofCharsFrom_append_of_settled
    {offset : Nat} {chars : List Char} {fault : Fault}
    (isFault : (ofCharsFrom offset chars).fault = some fault)
    (isSettled : fault.cause = .unexpectedCharacter '/' → chars.getLast? ≠ some '/')
    (tail : List Char) :
    ofCharsFrom offset (chars ++ tail) = ofCharsFrom offset chars ∨
      ∃ mark literal later, fault.cause = .unclosedString mark ∧
        (ofCharsFrom offset (chars ++ tail)).raw =
          (ofCharsFrom offset chars).raw ++ literal :: later ∧
        literal.kind = .stringLiteral ∧ literal.start = fault.offset ∧
        offset + Text.byteSize chars < literal.stop := by
  fun_induction ofCharsFrom offset chars with
  | case1 => cases isFault
  | case2 offset chars start cause failed =>
    obtain rfl := Option.some.inj isFault
    have stops : chars.dropWhile Text.isBlank ≠ [] := by
      intro nothing
      simp [nothing, Lexeme.read] at failed
    have front := Lexeme.takeWhile_append_of_stops stops tail
    have behind := Lexeme.dropWhile_append_of_stops stops tail
    have fails := Lexeme.fails_of_read failed
    have stillSettled : cause = .unexpectedCharacter '/' →
        (chars.dropWhile Text.isBlank).getLast? ≠ some '/' := by
      intro isSlash isLast
      apply isSettled isSlash
      rw [← List.takeWhile_append_dropWhile (p := Text.isBlank) (l := chars),
        List.getLast?_append, isLast]
      rfl
    rcases fails.append stillSettled tail with
      failedAgain | ⟨mark, lexeme, after, isOpen, found, isLiteral, isShorter⟩
    · left
      rw [← behind] at failedAgain
      rw [ofCharsFrom_of_fault offset failedAgain, front]
    · right
      rw [← behind] at found
      have size := byteSize_of_read found
      rw [front, Text.byteSize_append] at size
      have isStart : start = offset +
          Text.byteSize ((chars ++ tail).takeWhile Text.isBlank) := by rw [front]
      refine ⟨mark, lexeme.token start,
        (ofCharsFrom (start + Text.byteSize lexeme.spelling) after).raw, isOpen, ?_, isLiteral, rfl,
        ?_⟩
      · rw [ofCharsFrom_of_lexeme isStart found]
        rfl
      · simp only [Lexeme.token]
        omega
  | case3 offset chars start lexeme after found stop later inductionHypothesis =>
    -- The fault lies behind the lexeme, so the lexeme does not end the text.
    have goesOn : after ≠ [] := by
      rintro rfl
      have noFault : later.fault = none := by simp only [later, ofCharsFrom_nil]
      cases noFault.symm.trans isFault
    have isStart : start = offset + Text.byteSize (chars.takeWhile Text.isBlank) := rfl
    have isScan := ofCharsFrom_append_of_goesOn isStart found goesOn tail
    have size : stop + Text.byteSize after = offset + Text.byteSize chars := by
      have whole := byteSize_of_read found
      omega
    rw [← getLast?_of_read found goesOn] at isSettled
    rw [isScan]
    rcases inductionHypothesis isFault isSettled with
      same | ⟨mark, literal, behind, isOpen, isRaw, isLiteral, literalStart, isStop⟩
    · left
      rw [same]
      rfl
    · refine .inr ⟨mark, literal, behind, isOpen, ?_, isLiteral, literalStart, ?_⟩
      · rw [isRaw]
        rfl
      · rwa [size] at isStop

theorem ofCharsFrom_append_of_fault
    {offset : Nat} {chars : List Char} {fault : Fault}
    (endsInFeed : chars.getLast? = some '\n')
    (isFault : (ofCharsFrom offset chars).fault = some fault) (tail : List Char) :
    ofCharsFrom offset (chars ++ tail) = ofCharsFrom offset chars ∨
      ∃ mark literal later, fault.cause = .unclosedString mark ∧
        (ofCharsFrom offset (chars ++ tail)).raw =
          (ofCharsFrom offset chars).raw ++ literal :: later ∧
        literal.kind = .stringLiteral ∧ literal.start = fault.offset ∧
        offset + Text.byteSize chars < literal.stop := by
  refine ofCharsFrom_append_of_settled isFault ?_ tail
  rw [endsInFeed]
  simp

end Scan

end ConceptScript
