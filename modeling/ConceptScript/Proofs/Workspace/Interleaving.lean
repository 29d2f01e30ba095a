import ConceptScript.Proofs.Workspace.Status

/-!
Contract: passes of the publisher between which and during which documents change.

A pass is taken apart into the steps between which it lets go of the workspace. Addresses are
looked at and dispatches arrive in any order, any dispatch may be refused, and a pass may be
abandoned at any point. There is at most one pass at a time, and every instant is later than all
before it.

Owns the steps, the systems they reach, and that a pass made in one go is such a run.

Does not own what holds of the systems that are reached.
-/

set_option autoImplicit false

namespace ConceptScript

/-- How far a pass has got. -/
inductive Publisher.Phase where
  | idle
  /-- The pass took note of the time and of the last pass that was done. -/
  | started (startedAt : Instant) (since : Option Instant)
  | collected (startedAt : Instant) (since : Option Instant) (changed : List Uri)
  /-- The documents still to be looked at, those that were closed, and what is to be dispatched. -/
  | analysing (startedAt : Instant) (changed closed : List Uri) (prepared : List Dispatch)
  | delivering (startedAt : Instant) (pending : List Dispatch) (isRefused : Bool)

structure System where
  workspace : Workspace
  publisher : Publisher
  /-- The latest instant so far. -/
  clock : Instant
  /-- What the client was told, the latest first. -/
  delivered : List Dispatch := []
  phase : Publisher.Phase := .idle

namespace System

/-- A workspace with a catalog and without documents, before the first pass. -/
def initial (catalog : Catalog) (interval : Nat) (clock : Instant) : System :=
  { workspace := { context := ⟨some catalog⟩ }, publisher := { interval := interval }, clock := clock }

/-- What the client was last told about an address. -/
def lastDelivered? (system : System) (uri : Uri) : Option (List Diagnostic) :=
  (system.delivered.find? fun dispatch => dispatch.uri = uri).map Dispatch.diagnostics

inductive Step : System → System → Prop where
  | update {system : System} {now : Instant} (uri : Uri) (content : String)
      (isLater : system.clock < now) :
      Step system
        { system with workspace := system.workspace.update now uri content, clock := now }
  | close {system : System} {now : Instant} (uri : Uri)
      (isLater : system.clock < now) :
      Step system { system with workspace := system.workspace.close now uri, clock := now }
  | start {system : System} {now : Instant}
      (isIdle : system.phase = .idle)
      (isLater : system.clock < now) :
      Step system
        { system with clock := now, phase := .started now system.publisher.lastPublish }
  | collectChanged {system : System} {startedAt : Instant} {since : Option Instant}
      (isStarted : system.phase = .started startedAt since) :
      Step system
        { system with
          phase := .collected startedAt since (system.workspace.updatedSince since) }
  /-- Where nothing was changed or closed, the pass ends here. -/
  | collectClosed {system : System} {startedAt : Instant} {since : Option Instant}
      {changed : List Uri}
      (isCollected : system.phase = .collected startedAt since changed) :
      Step system
        { system with
          phase :=
            if changed.isEmpty && (system.workspace.closedSince since).isEmpty then .idle
            else .analysing startedAt changed (system.workspace.closedSince since) [] }
  | analyse {system : System} {startedAt : Instant} {uri : Uri} {front back closed : List Uri}
      {prepared : List Dispatch}
      (isAnalysing : system.phase = .analysing startedAt (front ++ uri :: back) closed prepared) :
      Step system
        { system with
          workspace := (Publisher.diagnose system.workspace uri).2
          phase := .analysing startedAt (front ++ back) closed
            (prepared ++ (Publisher.diagnose system.workspace uri).1.toList.map (⟨uri, ·⟩)) }
  | dispatch {system : System} {startedAt : Instant} {closed : List Uri}
      {prepared : List Dispatch}
      (isAnalysed : system.phase = .analysing startedAt [] closed prepared) :
      Step system
        { system with
          phase := .delivering startedAt (prepared ++ Publisher.dispatchClosed closed) false }
  | deliver {system : System} {startedAt : Instant} {front back : List Dispatch}
      {dispatch : Dispatch} {isRefused : Bool}
      (isPending : system.phase = .delivering startedAt (front ++ dispatch :: back) isRefused) :
      Step system
        { system with
          delivered := dispatch :: system.delivered
          phase := .delivering startedAt (front ++ back) isRefused }
  | refuse {system : System} {startedAt : Instant} {front back : List Dispatch}
      {dispatch : Dispatch} {isRefused : Bool}
      (isPending : system.phase = .delivering startedAt (front ++ dispatch :: back) isRefused) :
      Step system { system with phase := .delivering startedAt (front ++ back) true }
  | commit {system : System} {startedAt : Instant}
      (isDelivered : system.phase = .delivering startedAt [] false) :
      Step system
        { system with
          publisher := (system.publisher.commit startedAt system.workspace).1
          workspace := (system.publisher.commit startedAt system.workspace).2
          phase := .idle }
  | abandon {system : System} : Step system { system with phase := .idle }

/-- Any number of steps. -/
inductive Steps : System → System → Prop where
  | refl (system : System) : Steps system system
  | tail {first second third : System} (earlier : Steps first second) (step : Step second third) :
      Steps first third

/-- A system that is reached from an initial one. -/
def Reachable (catalog : Catalog) (system : System) : Prop :=
  ∃ interval clock, Steps (initial catalog interval clock) system

/-! ## A pass in one go -/

theorem Steps.trans
    {first second third : System}
    (earlier : Steps first second)
    (later : Steps second third) :
    Steps first third := by
  induction later with
  | refl => exact earlier
  | tail _ step inductionHypothesis => exact .tail inductionHypothesis step

theorem Steps.head
    {first second third : System}
    (step : Step first second)
    (later : Steps second third) :
    Steps first third :=
  Steps.trans (.tail (.refl first) step) later

theorem dispatchChanged_cons (workspace : Workspace) (uri : Uri) (later : List Uri) :
    Publisher.dispatchChanged workspace (uri :: later) =
      ((Publisher.diagnose workspace uri).1.toList.map (⟨uri, ·⟩) ++
          (Publisher.dispatchChanged (Publisher.diagnose workspace uri).2 later).1,
        (Publisher.dispatchChanged (Publisher.diagnose workspace uri).2 later).2) := by
  rw [Publisher.dispatchChanged]
  cases isFound : (Publisher.diagnose workspace uri).1 with
  | none => simp [isFound]
  | some diagnostics => simp [isFound]

theorem steps_dispatchChanged
    (system : System) (startedAt : Instant) (changed closed : List Uri)
    (prepared : List Dispatch) :
    Steps { system with phase := .analysing startedAt changed closed prepared }
      { system with
        workspace := (Publisher.dispatchChanged system.workspace changed).2
        phase := .analysing startedAt [] closed
          (prepared ++ (Publisher.dispatchChanged system.workspace changed).1) } := by
  induction changed generalizing system prepared with
  | nil =>
    rw [Publisher.dispatchChanged, List.append_nil]
    exact .refl _
  | cons uri changed inductionHypothesis =>
    have step : Step
        { system with phase := .analysing startedAt ([] ++ uri :: changed) closed prepared } _ :=
      .analyse rfl
    have later := inductionHypothesis
      { system with workspace := (Publisher.diagnose system.workspace uri).2 }
      (prepared ++ (Publisher.diagnose system.workspace uri).1.toList.map (⟨uri, ·⟩))
    rw [dispatchChanged_cons, ← List.append_assoc]
    exact .head step later

/-- Dispatches that are all accepted reach the client one after the other. -/
theorem steps_accepted
    (system : System) (client : Client) (startedAt : Instant) {pending : List Dispatch}
    (allAccepted : ∀ dispatch ∈ pending, client dispatch.uri = .accepted) (isRefused : Bool) :
    Steps { system with phase := .delivering startedAt pending isRefused }
      { system with
        delivered := pending.reverse ++ system.delivered
        phase := .delivering startedAt [] isRefused } := by
  induction pending generalizing system with
  | nil => exact .refl _
  | cons dispatch pending inductionHypothesis =>
    have step : Step
        { system with phase := .delivering startedAt ([] ++ dispatch :: pending) isRefused } _ :=
      .deliver rfl
    have later := inductionHypothesis { system with delivered := dispatch :: system.delivered }
      fun other member => allAccepted other (List.mem_cons_of_mem dispatch member)
    rw [List.reverse_cons, List.append_assoc]
    exact .head step later

theorem accepted_cons
    {client : Client} {dispatch : Dispatch}
    (isAccepted : client dispatch.uri = .accepted) (later : List Dispatch) :
    Publisher.accepted client (dispatch :: later) =
      dispatch :: Publisher.accepted client later := by
  simp [Publisher.accepted, Publisher.reached, isAccepted]

/-- Whatever the client says, it is told what it accepts up to where it aborts the pass. -/
theorem steps_reached
    (system : System) (client : Client) (startedAt : Instant) (pending : List Dispatch)
    (isRefused : Bool) :
    Steps { system with phase := .delivering startedAt pending isRefused }
      { system with
        delivered := (Publisher.accepted client pending).reverse ++ system.delivered
        phase := .idle } := by
  induction pending generalizing system isRefused with
  | nil => exact .head .abandon (.refl _)
  | cons dispatch pending inductionHypothesis =>
    cases response : client dispatch.uri with
    | aborted =>
      have nothing : Publisher.accepted client (dispatch :: pending) = [] := by
        simp [Publisher.accepted, Publisher.reached, response]
      rw [nothing]
      exact .head .abandon (.refl _)
    | refused =>
      have sameAccepted : Publisher.accepted client (dispatch :: pending) =
          Publisher.accepted client pending := by
        simp [Publisher.accepted, Publisher.reached, response]
      have step : Step
          { system with phase := .delivering startedAt ([] ++ dispatch :: pending) isRefused } _ :=
        .refuse rfl
      rw [sameAccepted]
      exact .head step (inductionHypothesis system true)
    | accepted =>
      have step : Step
          { system with phase := .delivering startedAt ([] ++ dispatch :: pending) isRefused } _ :=
        .deliver rfl
      have later := inductionHypothesis { system with delivered := dispatch :: system.delivered }
        isRefused
      rw [accepted_cons response, List.reverse_cons, List.append_assoc]
      exact .head step later

theorem accepted_of_worst
    {client : Client} {dispatches : List Dispatch}
    (isAccepted : Publisher.worst client dispatches = .accepted) :
    ∀ dispatch ∈ dispatches, client dispatch.uri = .accepted := by
  intro dispatch member
  unfold Publisher.worst at isAccepted
  split at isAccepted
  · cases isAccepted
  · next noneAborted =>
    split at isAccepted
    · cases isAccepted
    · next noneRefused =>
      simp only [List.any_eq_true, decide_eq_true_eq, not_exists, not_and] at noneAborted noneRefused
      cases response : client dispatch.uri with
      | accepted => rfl
      | refused => exact absurd response (noneRefused dispatch member)
      | aborted => exact absurd response (noneAborted dispatch member)

theorem accepted_eq_self
    {client : Client} {dispatches : List Dispatch}
    (allAccepted : ∀ dispatch ∈ dispatches, client dispatch.uri = .accepted) :
    Publisher.accepted client dispatches = dispatches := by
  induction dispatches with
  | nil => rfl
  | cons dispatch dispatches inductionHypothesis =>
    have isAccepted := allAccepted dispatch List.mem_cons_self
    have laterAccepted := inductionHypothesis
      fun other member => allAccepted other (List.mem_cons_of_mem dispatch member)
    rw [accepted_cons isAccepted, laterAccepted]

/-- From the start of a pass to the point at which its dispatches are sent. -/
theorem steps_dispatches
    (system : System) {now : Instant} {batch : Publisher.Batch}
    (isIdle : system.phase = .idle)
    (isLater : system.clock < now)
    (isBatch : system.publisher.batch? now system.workspace = some batch) :
    Steps system
      { system with
        workspace := (Publisher.dispatches system.workspace batch).2
        clock := now
        phase := .delivering now (Publisher.dispatches system.workspace batch).1 false } := by
  simp only [Publisher.batch?, Option.ite_none_left_eq_some, Option.some.injEq, Bool.or_eq_true,
    not_or] at isBatch
  obtain ⟨⟨-, notEmpty⟩, rfl⟩ := isBatch
  refine .head (.start isIdle isLater) (.head (.collectChanged rfl) (.head (.collectClosed rfl) ?_))
  rw [if_neg notEmpty]
  refine .trans (steps_dispatchChanged { system with clock := now } now _ _ []) ?_
  exact .head (.dispatch rfl) (.refl _)

/-- A pass in one go takes these steps. -/
theorem steps_pass
    (system : System) (client : Client) {now : Instant}
    (isInstalled : system.workspace.context.catalog.isSome = true)
    (isIdle : system.phase = .idle)
    (isLater : system.clock < now) :
    Steps system
      { system with
        workspace := (Publisher.pass client now system.publisher system.workspace).workspace
        publisher := (Publisher.pass client now system.publisher system.workspace).publisher
        clock := now
        delivered :=
          (Publisher.pass client now system.publisher system.workspace).delivered.reverse ++
            system.delivered } := by
  obtain ⟨workspace, publisher, clock, delivered, phase⟩ := system
  obtain rfl : phase = .idle := isIdle
  cases isBatch : publisher.batch? now workspace with
  | none =>
    have nothing : ((workspace.updatedSince publisher.lastPublish).isEmpty &&
        (workspace.closedSince publisher.lastPublish).isEmpty) = true := by
      simp only at isInstalled
      simpa [Publisher.batch?, Option.isNone_eq_false_iff.2 isInstalled] using isBatch
    simp only [Publisher.pass, isBatch, Publisher.idle, List.reverse_nil, List.nil_append]
    refine .head (.start rfl isLater) (.head (.collectChanged rfl)
      (.head (.collectClosed rfl) ?_))
    rw [if_pos nothing]
    exact .refl _
  | some batch =>
    have sent := steps_dispatches ⟨workspace, publisher, clock, delivered, .idle⟩ rfl isLater isBatch
    have isStart : batch.startedAt = now := by
      simp only [Publisher.batch?, Option.ite_none_left_eq_some, Option.some.injEq] at isBatch
      rw [← isBatch.2]
    let analysed : System :=
      ⟨(Publisher.dispatches workspace batch).2, publisher, now, delivered, .idle⟩
    simp only [Publisher.pass, isBatch]
    cases isWorst : Publisher.worst client (Publisher.dispatches workspace batch).1 with
    | aborted => exact sent.trans (steps_reached analysed client now _ false)
    | refused => exact sent.trans (steps_reached analysed client now _ false)
    | accepted =>
      have allAccepted := accepted_of_worst isWorst
      refine sent.trans (.trans (steps_accepted analysed client now allAccepted false) ?_)
      rw [accepted_eq_self allAccepted, isStart]
      exact .head (.commit rfl) (.refl _)

end System

end ConceptScript
