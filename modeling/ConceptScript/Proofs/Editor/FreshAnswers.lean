import ConceptScript.Proofs.Editor.QueryHistory

/-!
Contract: documents that were asked on their own lines only answer as if they had never been asked.

A position below the text is the only one whose analysis another position must not get to see. As
long as all questions are about lines that the text has, everything that a document remembers may be
used, and what it remembers stays like that.

Owns what such a document remembers, and the questions that it answers like a fresh one.

Does not own which documents there are.
-/

set_option autoImplicit false

namespace ConceptScript.Document

variable {context : Context} {catalog : Catalog} {document : Document}

/-! ## What is remembered -/

/-- All that is remembered was found in the current text, as a whole or on one of its lines. -/
def Kept (context : Context) (document : Document) : Prop :=
  ∀ key analysis, document.cached? key = some analysis →
    ∃ catalog asked, context.catalog = some catalog ∧ Key.of document.text asked = key ∧
      analysis = .run catalog document.text asked ∧
      ∀ position, asked = some position → position.line ≤ document.text.lastLine

theorem kept_of_cache_eq_nil
    (isEmpty : document.cache = []) :
    document.Kept context := by
  intro key analysis isCached
  simp [cached?, isEmpty] at isCached

theorem Kept.of_context
    {later : Context}
    (kept : document.Kept context)
    (stays : ∀ catalog, context.catalog = some catalog → later.catalog = some catalog) :
    document.Kept later := by
  intro key analysis isCached
  obtain ⟨catalog, asked, isInstalled, isKey, isRun, isOnLine⟩ := kept key analysis isCached
  exact ⟨catalog, asked, stays catalog isInstalled, isKey, isRun, isOnLine⟩

theorem Kept.analyse
    {asked : Option Position}
    (kept : document.Kept context)
    (isOnLine : ∀ position, asked = some position → position.line ≤ document.text.lastLine) :
    (document.analyse context asked).2.Kept context := by
  cases isCached : document.cached? (.of document.text asked) with
  | some analysis =>
    rw [analyse_of_cached context isCached]
    exact kept
  | none =>
    cases isInstalled : context.catalog with
    | none =>
      have unchanged : (document.analyse context asked).2 = document := by
        simp [Document.analyse, keyOf_eq, isCached, isInstalled]
      rw [unchanged]
      exact kept
    | some catalog =>
      rw [analyse_of_not_cached isCached isInstalled]
      intro key analysis isFound
      rw [cached?, List.lookup_cons] at isFound
      split at isFound
      · next isNew =>
        cases isFound
        exact ⟨catalog, asked, isInstalled, (eq_of_beq isNew).symm, rfl, isOnLine⟩
      · exact kept key analysis isFound

/-- The analysis that is found is that of a position with the same offset, which is on a line of the
text too. -/
theorem Kept.exists_analysis
    (kept : document.Kept context)
    (isInstalled : context.catalog = some catalog) {position : Position}
    (isOnLine : position.line ≤ document.text.lastLine) :
    ∃ first : Position, document.text.offsetOf first = document.text.offsetOf position ∧
      first.line ≤ document.text.lastLine ∧
      (document.analyse context (some position)).1 = .run catalog document.text (some first) := by
  cases isCached : document.cached? (.of document.text (some position)) with
  | none =>
    rw [analyse_of_not_cached isCached isInstalled]
    exact ⟨position, rfl, isOnLine, rfl⟩
  | some analysis =>
    rw [analyse_of_cached context isCached]
    obtain ⟨known, asked, isKnown, isKey, rfl, askedOnLine⟩ := kept _ _ isCached
    obtain rfl : catalog = known := Option.some.inj (isInstalled.symm.trans isKnown)
    cases asked with
    | none => cases isKey
    | some first => exact ⟨first, Key.offset.inj isKey, askedOnLine first rfl, rfl⟩

/-! ## Questions -/

/-- A question that leaves a document with its text and with nothing but what may be used. -/
structure Harmless {α : Type} (document : Document)
    (question : Context → Document → α × Document) (context : Context) : Prop where
  text : (question context document).2.text = document.text
  kept : (question context document).2.Kept context

/-- A question that a document answers as if it had never been asked. -/
structure Fresh {α : Type} (document : Document)
    (question : Context → Document → α × Document) (context : Context) : Prop
    extends document.Harmless question context where
  answer : (question context document).1 = (question context { text := document.text }).1

variable {position : Position}

/-- An answer that is made of the analysis at a position is fresh if it may as well be made of that
at any position with the same offset. -/
theorem Kept.fresh_of_analysis
    {α : Type} (absent : α) (answer : Catalog → Analysis → α)
    (kept : document.Kept context)
    (isOnLine : position.line ≤ document.text.lastLine)
    (sameAnswer : ∀ catalog (first : Position),
      document.text.offsetOf first = document.text.offsetOf position →
        first.line ≤ document.text.lastLine →
        answer catalog (.run catalog document.text (some first)) =
          answer catalog (.run catalog document.text (some position))) :
    document.Fresh (fun context document =>
      match context.catalog with
      | none => (absent, document)
      | some catalog =>
        let (analysis, document) := document.analyse context (some position)
        (answer catalog analysis, document)) context := by
  obtain ⟨installed⟩ := context
  cases installed with
  | none => exact ⟨⟨rfl, kept⟩, rfl⟩
  | some catalog =>
    obtain ⟨first, sameOffset, firstOnLine, isFound⟩ := kept.exists_analysis rfl isOnLine
    refine ⟨⟨text_analyse .., kept.analyse (by simpa using isOnLine)⟩, ?_⟩
    show answer catalog (document.analyse _ (some position)).1 = _
    rw [isFound]
    exact sameAnswer catalog first sameOffset firstOnLine

theorem Kept.fresh_completions
    (kept : document.Kept context)
    (isOnLine : position.line ≤ document.text.lastLine) :
    document.Fresh (fun context document => document.completions context position) context := by
  apply kept.fresh_of_analysis [] (fun catalog analysis => analysis.completions catalog position)
    isOnLine
  intro catalog first sameOffset firstOnLine
  exact (Analysis.completions_of_sameOffset_iff catalog sameOffset).2
    (.inl (iff_of_true firstOnLine isOnLine))

theorem Kept.fresh_hover?
    (kept : document.Kept context)
    (isOnLine : position.line ≤ document.text.lastLine) :
    document.Fresh (fun context document => document.hover? context position) context := by
  apply kept.fresh_of_analysis none (fun catalog analysis => analysis.hover? catalog position)
    isOnLine
  intro catalog first sameOffset _
  exact Analysis.hover?_of_sameOffset catalog sameOffset

theorem Kept.fresh_signatureHelp?
    (kept : document.Kept context)
    (isOnLine : position.line ≤ document.text.lastLine) :
    document.Fresh (fun context document => document.signatureHelp? context position) context := by
  apply kept.fresh_of_analysis none
    (fun catalog analysis => analysis.signatureHelp? catalog position) isOnLine
  intro catalog first sameOffset _
  exact Analysis.signatureHelp?_of_sameOffset catalog sameOffset

/-! ## Questions about positions in UTF-16 units -/

theorem Kept.fresh_completionsAt
    (kept : document.Kept context)
    (isOnLine : position.line ≤ document.text.lastLine) :
    document.Fresh (fun context document => document.completionsAt context position) context := by
  -- Other units change the column only.
  have sameLine : (document.text.ofUtf16 position).line ≤ document.text.lastLine := isOnLine
  have fresh := kept.fresh_completions sameLine
  obtain ⟨installed⟩ := context
  cases installed with
  | none => exact ⟨⟨fresh.text, fresh.kept⟩, rfl⟩
  | some catalog =>
    refine ⟨⟨fresh.text, fresh.kept⟩, ?_⟩
    exact congrArg (List.map (Completion.ofKeyword catalog)) fresh.answer

theorem Kept.fresh_signatureHelpAt?
    (kept : document.Kept context)
    (isOnLine : position.line ≤ document.text.lastLine) :
    document.Fresh (fun context document => document.signatureHelpAt? context position)
      context := by
  have sameLine : (document.text.ofUtf16 position).line ≤ document.text.lastLine := isOnLine
  have fresh := kept.fresh_signatureHelp? sameLine
  exact ⟨⟨fresh.text, fresh.kept⟩, fresh.answer⟩

/-- A hover with columns in UTF-16 units of a text. -/
def toUtf16Hover (text : Text) (hover : Hover) : Hover :=
  { hover with start := text.toUtf16 hover.start, stop := text.toUtf16 hover.stop }

/-- A hover is converted in the text that was analysed, which is looked up a second time. -/
theorem hoverAt?_eq_again (context : Context) (document : Document) (position : Position) :
    let place := document.text.ofUtf16 position
    let asked := (document.hover? context place).2
    (document.hoverAt? context position).1 =
        (document.hover? context place).1.map
          (toUtf16Hover (asked.analyse context (some place)).1.text) ∧
      ((document.hoverAt? context position).2 = asked ∨
        (document.hoverAt? context position).2 = (asked.analyse context (some place)).2) := by
  unfold hoverAt?
  dsimp only
  rcases document.hover? context (document.text.ofUtf16 position) with ⟨_ | hover, asked⟩
  · exact ⟨rfl, .inl rfl⟩
  · exact ⟨rfl, .inr rfl⟩

theorem Kept.text_analysis
    (kept : document.Kept context)
    (isInstalled : context.catalog = some catalog)
    (isOnLine : position.line ≤ document.text.lastLine) :
    (document.analyse context (some position)).1.text =
      document.text.cutAfterLine (document.text.offsetOf position) := by
  obtain ⟨first, sameOffset, -, isFound⟩ := kept.exists_analysis isInstalled isOnLine
  rw [isFound, ← sameOffset]
  rfl

theorem Kept.hoverAt?_eq
    (kept : document.Kept ⟨some catalog⟩)
    (isOnLine : position.line ≤ document.text.lastLine) :
    let place := document.text.ofUtf16 position
    (document.hoverAt? ⟨some catalog⟩ position).1 =
      (document.hover? ⟨some catalog⟩ place).1.map
        (toUtf16Hover (document.text.cutAfterLine (document.text.offsetOf place))) := by
  intro place
  have placeOnLine : place.line ≤ document.text.lastLine := isOnLine
  have fresh := kept.fresh_hover? placeOnLine
  rw [← fresh.text] at placeOnLine
  have sameText := fresh.kept.text_analysis rfl placeOnLine
  rw [fresh.text] at sameText
  rw [(hoverAt?_eq_again ..).1, sameText]

theorem Kept.fresh_hoverAt?
    (kept : document.Kept context)
    (isOnLine : position.line ≤ document.text.lastLine) :
    document.Fresh (fun context document => document.hoverAt? context position) context := by
  obtain ⟨installed⟩ := context
  cases installed with
  | none => exact ⟨⟨rfl, kept⟩, rfl⟩
  | some catalog =>
    have sameLine : (document.text.ofUtf16 position).line ≤ document.text.lastLine := isOnLine
    have fresh := kept.fresh_hover? sameLine
    have nothing : ({ text := document.text } : Document).Kept ⟨some catalog⟩ :=
      kept_of_cache_eq_nil rfl
    have again : (Document.analyse ⟨some catalog⟩
        (document.hover? ⟨some catalog⟩ (document.text.ofUtf16 position)).2
        (some (document.text.ofUtf16 position))).2.Kept ⟨some catalog⟩ := by
      apply fresh.kept.analyse
      rw [fresh.text]
      simpa using sameLine
    refine ⟨?_, ?_⟩
    · rcases (hoverAt?_eq_again ⟨some catalog⟩ document position).2 with isAsked | isAgain
      · exact ⟨isAsked ▸ fresh.text, isAsked ▸ fresh.kept⟩
      · exact ⟨isAgain ▸ (text_analyse ..).trans fresh.text, isAgain ▸ again⟩
    · rw [kept.hoverAt?_eq isOnLine, nothing.hoverAt?_eq isOnLine, fresh.answer]

end ConceptScript.Document
