import ConceptScript.Proofs.Workspace.Delivery

/-!
Contract: everything that a pass made in one go can do.

Owns the addresses that are due, the messages about them, and the three ways in which a pass ends:
there is nothing to say, the client accepts all of it, or it does not.

Does not own why an address is due.
-/

set_option autoImplicit false

namespace ConceptScript

open Workspace (Sound)

namespace Publisher

/-- The addresses that a pass is about. -/
def due (publisher : Publisher) (workspace : Workspace) : List Uri :=
  workspace.updatedSince publisher.lastPublish ++ workspace.closedSince publisher.lastPublish

/-- What there is to say about addresses. -/
def messages (catalog : Catalog) (workspace : Workspace) (uris : List Uri) : List Dispatch :=
  uris.map fun uri => ⟨uri, (workspace.status uri).diagnostics catalog⟩

variable {catalog : Catalog} {workspace : Workspace}

theorem mem_due_iff
    (sound : Sound catalog workspace) (publisher : Publisher) (uri : Uri) :
    uri ∈ publisher.due workspace ↔ (workspace.status uri).IsDue publisher.lastPublish := by
  rw [due, List.mem_append, Workspace.mem_updatedSince_iff_isDue sound,
    Workspace.mem_closedSince_iff_isDue sound, ← or_and_right]
  exact and_iff_right (Classical.em _)

theorem nodup_due
    (sound : Sound catalog workspace) (publisher : Publisher) :
    (publisher.due workspace).Nodup := by
  refine List.nodup_append.2 ⟨nodup_filter sound.openedDistinct _,
    nodup_filter sound.closedDistinct _, ?_⟩
  rintro uri isChanged _ isClosed rfl
  have isOpen := ((Workspace.mem_updatedSince_iff_isDue sound _ uri).1 isChanged).1
  exact ((Workspace.mem_closedSince_iff_isDue sound _ uri).1 isClosed).1 isOpen

/-! ## Dispatches -/

/-- A workspace in which nothing but remembered analyses has changed. -/
structure Analysed (catalog : Catalog) (workspace later : Workspace) : Prop where
  sound : Sound catalog later
  status_eq : ∀ uri, later.status uri = workspace.status uri
  closed_eq : later.closed = workspace.closed

theorem closed_diagnose (workspace : Workspace) (uri : Uri) :
    (diagnose workspace uri).2.closed = workspace.closed := by
  cases isOpen : workspace.find? uri with
  | none => rw [Workspace.diagnose_of_not_open isOpen]
  | some entry => simp [diagnose, Workspace.ask, Workspace.document?, Workspace.store, isOpen]

/-- Open documents are looked at one after the other, and no look changes what another one finds. -/
theorem dispatchChanged_eq
    (sound : Sound catalog workspace) {changed : List Uri}
    (allOpen : ∀ uri ∈ changed, (workspace.status uri).IsOpen) :
    (dispatchChanged workspace changed).1 = messages catalog workspace changed ∧
      Analysed catalog workspace (dispatchChanged workspace changed).2 := by
  induction changed generalizing workspace with
  | nil => exact ⟨rfl, sound, fun _ => rfl, rfl⟩
  | cons uri changed inductionHypothesis =>
    have sameStatus := Workspace.status_diagnose sound uri
    have laterOpen : ∀ other ∈ changed,
        ((diagnose workspace uri).2.status other).IsOpen := by
      intro other isOther
      rw [sameStatus]
      exact allOpen other (List.mem_cons_of_mem uri isOther)
    obtain ⟨isLater, analysed⟩ := inductionHypothesis (sound.diagnose uri) laterOpen
    have isFound : (diagnose workspace uri).1 =
        some ((workspace.status uri).diagnostics catalog) := by
      rcases Workspace.diagnose_eq sound uri with ⟨isFound, -⟩ | ⟨-, notOpen⟩
      · exact isFound
      · exact absurd (allOpen uri List.mem_cons_self) notOpen
    rw [System.dispatchChanged_cons]
    refine ⟨?_, analysed.sound, ?_, analysed.closed_eq.trans (closed_diagnose workspace uri)⟩
    · simp only [isFound, isLater, messages, sameStatus]
      rfl
    · intro other
      rw [analysed.status_eq, sameStatus]

theorem dispatches_eq
    (sound : Sound catalog workspace) (publisher : Publisher) (now : Instant) :
    let batch : Batch := ⟨now, workspace.updatedSince publisher.lastPublish,
      workspace.closedSince publisher.lastPublish⟩
    (dispatches workspace batch).1 = messages catalog workspace (publisher.due workspace) ∧
      Analysed catalog workspace (dispatches workspace batch).2 := by
  have allOpen : ∀ uri ∈ workspace.updatedSince publisher.lastPublish,
      (workspace.status uri).IsOpen := by
    intro uri isChanged
    exact ((Workspace.mem_updatedSince_iff_isDue sound _ uri).1 isChanged).1
  obtain ⟨isChanged, analysed⟩ := dispatchChanged_eq sound allOpen
  have isClosed : dispatchClosed (workspace.closedSince publisher.lastPublish) =
      messages catalog workspace (workspace.closedSince publisher.lastPublish) := by
    apply List.map_congr_left
    intro uri isClosed
    have notOpen := ((Workspace.mem_closedSince_iff_isDue sound _ uri).1 isClosed).1
    rw [Status.diagnostics_of_not_open notOpen]
  intro batch
  refine ⟨?_, analysed⟩
  show (dispatchChanged workspace _).1 ++ dispatchClosed _ = _
  rw [isChanged, isClosed, due, messages, messages, messages, List.map_append]

theorem worst_eq_accepted_iff (client : Client) (dispatches : List Dispatch) :
    worst client dispatches = .accepted ↔
      ∀ dispatch ∈ dispatches, client dispatch.uri = .accepted := by
  constructor
  · exact System.accepted_of_worst
  · intro allAccepted
    have noneElse : ∀ response, response ≠ .accepted →
        (dispatches.any fun dispatch => client dispatch.uri = response) = false := by
      intro response isOther
      rw [List.any_eq_false]
      intro dispatch isDispatch
      simpa [allAccepted dispatch isDispatch] using isOther.symm
    simp [worst, noneElse]

/-! ## The end of a pass -/

/-- How a pass can end. -/
inductive Passes (catalog : Catalog) (client : Client) (now : Instant) (publisher : Publisher)
    (workspace : Workspace) : Pass → Prop where
  | idle (nothingDue : publisher.due workspace = []) :
      Passes catalog client now publisher workspace (idle publisher workspace)
  | commits {later : Workspace}
      (notIdle : publisher.due workspace ≠ [])
      (allAccepted : ∀ uri ∈ publisher.due workspace, client uri = .accepted)
      (analysed : Analysed catalog workspace later) :
      Passes catalog client now publisher workspace
        ⟨.published (publisher.due workspace).length,
          messages catalog workspace (publisher.due workspace),
          { publisher with lastPublish := some now }, later.forgetClosed now⟩
  | fails {later : Workspace} {outcome : Outcome} {delivered : List Dispatch}
      (isFailure : ∀ count, outcome ≠ .published count)
      (notAccepted : ¬ ∀ uri ∈ publisher.due workspace, client uri = .accepted)
      (analysed : Analysed catalog workspace later) :
      Passes catalog client now publisher workspace ⟨outcome, delivered, publisher, later⟩

theorem passes_of_sound
    (sound : Sound catalog workspace) (client : Client) (now : Instant) (publisher : Publisher) :
    Passes catalog client now publisher workspace (pass client now publisher workspace) := by
  obtain ⟨isDispatches, analysed⟩ := dispatches_eq sound publisher now
  by_cases nothingDue : publisher.due workspace = []
  · have noBatch : publisher.batch? now workspace = none := by
      obtain ⟨noneChanged, noneClosed⟩ := List.append_eq_nil_iff.1 nothingDue
      simp [batch?, noneChanged, noneClosed]
    rw [pass, noBatch]
    exact .idle nothingDue
  · have isBatch : publisher.batch? now workspace =
        some ⟨now, workspace.updatedSince publisher.lastPublish,
          workspace.closedSince publisher.lastPublish⟩ := by
      have notEmpty := mt List.append_eq_nil_iff.2 nothingDue
      simpa [batch?, sound.isInstalled] using notEmpty
    have acceptedIff : worst client (messages catalog workspace (publisher.due workspace)) =
        .accepted ↔ ∀ uri ∈ publisher.due workspace, client uri = .accepted := by
      simp [worst_eq_accepted_iff, messages]
    rw [pass, isBatch]
    dsimp only
    rw [isDispatches]
    cases isWorst : worst client (messages catalog workspace (publisher.due workspace)) with
    | aborted =>
      have notAccepted := mt acceptedIff.2 (by simp [isWorst])
      exact .fails (by simp) notAccepted analysed
    | refused =>
      have notAccepted := mt acceptedIff.2 (by simp [isWorst])
      exact .fails (by simp) notAccepted analysed
    | accepted =>
      have isLength : (messages catalog workspace (publisher.due workspace)).length =
          (publisher.due workspace).length := List.length_map _
      rw [System.accepted_eq_self ((worst_eq_accepted_iff client _).1 isWorst), isLength]
      exact .commits nothingDue (acceptedIff.1 isWorst) analysed

theorem pass_of_not_installed
    (notInstalled : workspace.context.catalog = none) (client : Client) (now : Instant)
    (publisher : Publisher) :
    pass client now publisher workspace = idle publisher workspace := by
  have noBatch : publisher.batch? now workspace = none := by simp [batch?, notInstalled]
  rw [pass, noBatch]

end Publisher

end ConceptScript
