import ConceptScript.Proofs.Token.Span

/-!
Contract: the tokens of a text that ends in a line feed, whatever is written behind it.

In front of the line feed it is decided where each lexeme ends, unless it is a literal that is still
open there. So the tokens of the text stay tokens, and a fault stays where it is, except that the
open literal may be closed further on.

Owns which tokens and which faults a text shares with all of its continuations.

Does not own how a lexeme is read, and why none ends in a line feed.
-/

set_option autoImplicit false

namespace ConceptScript.Scan

variable {front : List Char}

/-! ## Continuations of a text without fault -/

theorem raw_append_of_noFault
    (endsInFeed : front.getLast? = some '\n')
    (noFault : (ofChars front).fault = none) (tail : List Char) :
    (ofChars (front ++ tail)).raw =
      (ofChars front).raw ++ (ofCharsFrom (Text.byteSize front) tail).raw := by
  have isScan := ofCharsFrom_append endsInFeed noFault tail
  rw [Nat.zero_add] at isScan
  rw [ofChars, isScan]
  rfl

theorem stop_le_of_front {token : Token}
    (isToken : token ∈ (ofChars front).raw) :
    token.stop ≤ Text.byteSize front :=
  ((lies_ofChars front).inside token isToken).2.2

theorem size_le_start_of_tail {size : Nat} {tail : List Char} {token : Token}
    (isToken : token ∈ (ofCharsFrom size tail).raw) :
    size ≤ token.start ∧ token.start < token.stop := by
  obtain ⟨isBehind, notEmpty, -⟩ := (lies_ofCharsFrom size tail).inside token isToken
  exact ⟨isBehind, notEmpty⟩

/-- The tokens that end in the text are its own. -/
theorem filter_raw_append
    (endsInFeed : front.getLast? = some '\n')
    (noFault : (ofChars front).fault = none) (tail : List Char) :
    (ofChars (front ++ tail)).raw.filter (fun token => token.stop ≤ Text.byteSize front) =
      (ofChars front).raw := by
  have allOfFront : (ofChars front).raw.filter (fun token => token.stop ≤ Text.byteSize front) =
      (ofChars front).raw := by
    apply List.filter_eq_self.2
    intro token isToken
    exact decide_eq_true (stop_le_of_front isToken)
  have noneOfTail : (ofCharsFrom (Text.byteSize front) tail).raw.filter
      (fun token => token.stop ≤ Text.byteSize front) = [] := by
    apply List.filter_eq_nil_iff.2
    intro token isToken
    have isBehind := size_le_start_of_tail isToken
    rw [decide_eq_true_eq]
    omega
  rw [raw_append_of_noFault endsInFeed noFault, List.filter_append, allOfFront, noneOfTail,
    List.append_nil]

/-- No token lies on both sides of the line feed. -/
theorem not_across_of_noFault {tail : List Char} {token : Token}
    (endsInFeed : front.getLast? = some '\n')
    (noFault : (ofChars front).fault = none)
    (isToken : token ∈ (ofChars (front ++ tail)).raw) :
    ¬ (token.start < Text.byteSize front ∧ Text.byteSize front < token.stop) := by
  rw [raw_append_of_noFault endsInFeed noFault] at isToken
  rcases List.mem_append.1 isToken with ofFront | ofTail
  · have isInside := stop_le_of_front ofFront
    omega
  · have isBehind := size_le_start_of_tail ofTail
    omega

/-! ## All continuations -/

/-- **What follows a line feed changes nothing in front of it.** A text without fault keeps its
tokens, which are those that end in it, and none reaches beyond it. Where a character is refused, the
scan stops there with any continuation. Where a literal is open, the tokens in front of it stay, and
the literal either remains open or is closed behind the text. -/
theorem ofChars_continued
    (endsInFeed : front.getLast? = some '\n') (tail : List Char) :
    let here : Scan := .ofChars front
    let whole : Scan := .ofChars (front ++ tail)
    let size := Text.byteSize front
    (here.fault = none →
        here.raw = whole.raw.filter (fun token => token.stop ≤ size) ∧
          ∀ token ∈ whole.raw, ¬ (token.start < size ∧ size < token.stop)) ∧
      (∀ found start, here.fault = some ⟨.unexpectedCharacter found, start⟩ → whole = here) ∧
      ∀ mark start, here.fault = some ⟨.unclosedString mark, start⟩ →
        (∀ token ∈ here.raw, token.stop ≤ start) ∧
          (whole = here ∨
            ∃ literal later, whole.raw = here.raw ++ literal :: later ∧
              literal.kind = .stringLiteral ∧ literal.start = start ∧ size < literal.stop) := by
  intro here whole size
  refine ⟨?_, ?_, ?_⟩
  · intro noFault
    refine ⟨(filter_raw_append endsInFeed noFault tail).symm, ?_⟩
    intro token isToken
    exact not_across_of_noFault endsInFeed noFault isToken
  · intro found start isFault
    rcases ofCharsFrom_append_of_fault endsInFeed isFault tail with same | ⟨mark, _, _, isOpen, -⟩
    · exact same
    · cases isOpen
  · intro mark start isFault
    refine ⟨(lies_ofChars front).faultBehind _ isFault, ?_⟩
    rcases ofCharsFrom_append_of_fault endsInFeed isFault tail with
      same | ⟨-, literal, later, -, isRaw, isLiteral, isStart, isStop⟩
    · exact .inl same
    · rw [Nat.zero_add] at isStop
      exact .inr ⟨literal, later, isRaw, isLiteral, isStart, isStop⟩

/-- A literal whose last quote before the line feed is doubled, and that is closed on the next
line. -/
theorem ofChars_continued_after_doubled_quote :
    let front := "part 'a''\n".toList
    let tail := "b' c;".toList
    front.getLast? = some '\n' ∧
      (ofChars front).fault = some ⟨.unclosedString '\'', 5⟩ ∧
      (∀ token ∈ (ofChars front).raw, token.stop ≤ 5) ∧
        (ofChars (front ++ tail) = ofChars front ∨
          ∃ literal later, (ofChars (front ++ tail)).raw =
              (ofChars front).raw ++ literal :: later ∧
            literal.kind = .stringLiteral ∧ literal.start = 5 ∧
              Text.byteSize front < literal.stop) := by
  intro front tail
  have endsInFeed : front.getLast? = some '\n' := by decide +kernel
  have isFault : (ofChars front).fault = some ⟨.unclosedString '\'', 5⟩ := by decide +kernel
  exact ⟨endsInFeed, isFault, (ofChars_continued endsInFeed tail).2.2 '\'' 5 isFault⟩

end ConceptScript.Scan
