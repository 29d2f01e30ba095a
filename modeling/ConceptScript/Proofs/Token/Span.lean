import ConceptScript.Proofs.Token.Extension

/-!
Contract: where the tokens of a scan lie.

Owns that tokens take at least one byte, do not overlap, come in the order of the text and end in
front of the fault, and that all of this holds of tokens and comments taken apart.

Does not own which characters a token is made of.
-/

set_option autoImplicit false

namespace ConceptScript

/-- Tokens in the order of a text: none is empty, and none starts in front of the end of one
before it. -/
structure Token.Laid (tokens : List Token) : Prop where
  notEmpty : ∀ token ∈ tokens, token.start < token.stop
  ordered : tokens.Pairwise fun earlier later => earlier.stop ≤ later.start

namespace Token.Laid

variable {tokens front back : List Token}

theorem starts_increase (laid : Laid tokens) :
    tokens.Pairwise fun earlier later => earlier.start < later.start := by
  refine laid.ordered.imp_of_mem ?_
  intro earlier later isEarlier _ isOrdered
  have notEmpty := laid.notEmpty earlier isEarlier
  omega

theorem filter (laid : Laid tokens) (keep : Token → Bool) : Laid (tokens.filter keep) where
  notEmpty token isToken := laid.notEmpty token (List.mem_filter.1 isToken).1
  ordered := laid.ordered.filter keep

theorem of_append_left (laid : Laid (front ++ back)) : Laid front where
  notEmpty token isToken := laid.notEmpty token (List.mem_append_left back isToken)
  ordered := (List.pairwise_append.1 laid.ordered).1

end Token.Laid

namespace Scan

/-- The tokens and the fault lie in order between two offsets. -/
structure Lies (start stop : Nat) (scan : Scan) : Prop where
  inside : ∀ token ∈ scan.raw, start ≤ token.start ∧ token.start < token.stop ∧ token.stop ≤ stop
  ordered : scan.raw.Pairwise fun earlier later => earlier.stop ≤ later.start
  faultInside : ∀ fault ∈ scan.fault, start ≤ fault.offset ∧ fault.offset < stop
  faultBehind : ∀ fault ∈ scan.fault, ∀ token ∈ scan.raw, token.stop ≤ fault.offset

theorem Lies.cons
    {scan : Scan} (token : Token) {start stop : Nat}
    (later : Lies token.stop stop scan)
    (isBehind : start ≤ token.start)
    (notEmpty : token.start < token.stop)
    (isInside : token.stop ≤ stop) :
    Lies start stop ⟨token :: scan.raw, scan.fault⟩ where
  inside := by
    intro other member
    rcases List.mem_cons.1 member with rfl | member
    · exact ⟨isBehind, notEmpty, isInside⟩
    · obtain ⟨otherBehind, otherNotEmpty, otherInside⟩ := later.inside other member
      exact ⟨by omega, otherNotEmpty, otherInside⟩
  ordered := List.pairwise_cons.2
    ⟨fun other member => (later.inside other member).1, later.ordered⟩
  faultInside := by
    intro fault isFault
    obtain ⟨faultBehind, faultInside⟩ := later.faultInside fault isFault
    exact ⟨by omega, faultInside⟩
  faultBehind := by
    intro fault isFault other member
    rcases List.mem_cons.1 member with rfl | member
    · exact (later.faultInside fault isFault).1
    · exact later.faultBehind fault isFault other member

theorem lies_ofCharsFrom (offset : Nat) (chars : List Char) :
    Lies offset (offset + Text.byteSize chars) (ofCharsFrom offset chars) := by
  fun_induction ofCharsFrom offset chars with
  | case1 => exact ⟨by simp, .nil, by simp, by simp⟩
  | case2 offset chars start cause failed =>
    have whole := congrArg Text.byteSize
      (List.takeWhile_append_dropWhile (p := Text.isBlank) (l := chars))
    rw [Text.byteSize_append] at whole
    have behindSize : 0 < Text.byteSize (chars.dropWhile Text.isBlank) := by
      apply Text.byteSize_pos
      intro nothing
      simp [nothing, Lexeme.read] at failed
    refine ⟨by simp, .nil, ?_, by simp⟩
    intro fault isFault
    obtain rfl : (⟨cause, start⟩ : Fault) = fault := by simpa using isFault
    exact ⟨Nat.le_add_right _ _, by simp only [start]; omega⟩
  | case3 offset chars start lexeme after found stop later inductionHypothesis =>
    have whole := byteSize_of_read found
    have spelledSize := Text.byteSize_pos (Lexeme.read_spelling found).2
    have isStop : stop + Text.byteSize after = offset + Text.byteSize chars := by omega
    rw [isStop] at inductionHypothesis
    refine Lies.cons (lexeme.token start) inductionHypothesis ?_ ?_ ?_
    · exact Nat.le_add_right _ _
    · exact Nat.lt_add_of_pos_right spelledSize
    · simp only [Lexeme.token]
      omega

theorem lies_ofChars (chars : List Char) : Lies 0 (Text.byteSize chars) (ofChars chars) := by
  have lies := lies_ofCharsFrom 0 chars
  rwa [Nat.zero_add] at lies

theorem Lies.laid
    {scan : Scan} {start stop : Nat}
    (lies : Lies start stop scan) :
    Token.Laid scan.raw :=
  ⟨fun token isToken => (lies.inside token isToken).2.1, lies.ordered⟩

theorem Lies.starts_increase
    {scan : Scan} {start stop : Nat}
    (lies : Lies start stop scan) :
    scan.raw.Pairwise fun earlier later => earlier.start < later.start :=
  lies.laid.starts_increase

end Scan

end ConceptScript
