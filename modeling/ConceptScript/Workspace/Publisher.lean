import ConceptScript.Editor.Diagnostic
import ConceptScript.Workspace.Basic

/-!
Contract: telling a client the diagnostics of changed and closed documents.

Owns what a pass has to publish, when a pass counts as done, and when the loop runs a pass.

Does not own the way to the client, whose response to every dispatch is given.
-/

set_option autoImplicit false

namespace ConceptScript

/-- The diagnostics of one document on their way to the client. -/
structure Dispatch where
  uri : Uri
  diagnostics : List Diagnostic
  deriving DecidableEq, Repr

/-- How a client responds to a dispatch. Where it aborts, later dispatches do not reach it. -/
inductive Response where
  | accepted
  | refused
  | aborted
  deriving DecidableEq, Repr

abbrev Client := Uri → Response

structure Publisher where
  /-- Milliseconds between two passes of the loop. -/
  interval : Nat
  /-- When the last pass started that was done. -/
  lastPublish : Option Instant := none
  /-- Whether the loop was told to stop, which is final. -/
  stopped : Bool := false
  /-- The time at which the loop began to wait, while there is a loop. -/
  waitingSince : Option Nat := none
  deriving DecidableEq, Repr

namespace Publisher

/-! ## One pass -/

/-- The documents that a pass is about. -/
structure Batch where
  startedAt : Instant
  changed : List Uri
  closed : List Uri
  deriving DecidableEq, Repr

/-- What has happened since the last pass that was done. Without a catalog everything waits. -/
def batch? (publisher : Publisher) (now : Instant) (workspace : Workspace) : Option Batch :=
  let batch : Batch := {
    startedAt := now
    changed := workspace.updatedSince publisher.lastPublish
    closed := workspace.closedSince publisher.lastPublish }
  if workspace.context.catalog.isNone || (batch.changed.isEmpty && batch.closed.isEmpty) then none
  else some batch

/-- The diagnostics of a whole document, if it is open. -/
def diagnose (workspace : Workspace) (uri : Uri) : Option (List Diagnostic) × Workspace :=
  workspace.ask uri fun context document =>
    let (analysis, document) := document.analyse context none
    (analysis.diagnostics, document)

/-- Dispatches for the changed documents that are open. -/
def dispatchChanged (workspace : Workspace) : List Uri → List Dispatch × Workspace
  | [] => ([], workspace)
  | uri :: later =>
    let (diagnostics, workspace) := diagnose workspace uri
    let (dispatches, workspace) := dispatchChanged workspace later
    match diagnostics with
    | some diagnostics => (⟨uri, diagnostics⟩ :: dispatches, workspace)
    | none => (dispatches, workspace)

/-- A closed document has no diagnostics any more. -/
def dispatchClosed (uris : List Uri) : List Dispatch :=
  uris.map fun uri => ⟨uri, []⟩

def dispatches (workspace : Workspace) (batch : Batch) : List Dispatch × Workspace :=
  let (changed, workspace) := dispatchChanged workspace batch.changed
  (changed ++ dispatchClosed batch.closed, workspace)

/-- The dispatches that a client gets to see. -/
def reached (client : Client) (dispatches : List Dispatch) : List Dispatch :=
  dispatches.takeWhile fun dispatch => client dispatch.uri ≠ .aborted

def accepted (client : Client) (dispatches : List Dispatch) : List Dispatch :=
  (reached client dispatches).filter fun dispatch => client dispatch.uri = .accepted

/-- The worst response to the dispatches of a pass. -/
def worst (client : Client) (dispatches : List Dispatch) : Response :=
  if dispatches.any fun dispatch => client dispatch.uri = .aborted then .aborted
  else if dispatches.any fun dispatch => client dispatch.uri = .refused then .refused
  else .accepted

/-- Counts a pass as done. What was closed before it started is settled with it. -/
def commit (publisher : Publisher) (startedAt : Instant) (workspace : Workspace) :
    Publisher × Workspace :=
  ({ publisher with lastPublish := some startedAt }, workspace.forgetClosed startedAt)

inductive Outcome where
  | published (count : Nat)
  | refused
  | aborted
  deriving DecidableEq, Repr

structure Pass where
  outcome : Outcome
  delivered : List Dispatch
  publisher : Publisher
  workspace : Workspace

/-- A pass in which nothing happens. -/
def idle (publisher : Publisher) (workspace : Workspace) : Pass :=
  ⟨.published 0, [], publisher, workspace⟩

/-- Publishes what has happened since the last pass that was done. A pass that the client does not
accept as a whole will be made again in full. -/
def pass (client : Client) (now : Instant) (publisher : Publisher) (workspace : Workspace) :
    Pass :=
  match publisher.batch? now workspace with
  | none => idle publisher workspace
  | some batch =>
    let (dispatches, workspace) := dispatches workspace batch
    let delivered := accepted client dispatches
    match worst client dispatches with
    | .aborted => ⟨.aborted, delivered, publisher, workspace⟩
    | .refused => ⟨.refused, delivered, publisher, workspace⟩
    | .accepted =>
      let (publisher, workspace) := publisher.commit batch.startedAt workspace
      ⟨.published dispatches.length, delivered, publisher, workspace⟩

/-! ## The loop -/

def isRunning (publisher : Publisher) : Bool :=
  publisher.waitingSince.isSome

/-- Makes the loop, unless there is one. -/
def occupy (publisher : Publisher) (time : Nat) : Publisher :=
  { publisher with waitingSince := some (publisher.waitingSince.getD time) }

/-- Starts the loop. Nothing happens while it runs and once it was stopped. -/
def start (publisher : Publisher) (time : Nat) : Publisher :=
  if publisher.stopped then publisher else publisher.occupy time

def signalStop (publisher : Publisher) : Publisher :=
  { publisher with stopped := true }

def release (publisher : Publisher) : Publisher :=
  { publisher with waitingSince := none }

/-- Stops the loop for good. -/
def stop (publisher : Publisher) : Publisher :=
  publisher.signalStop.release

/-- Whether the loop has waited for its interval. -/
def isDue (publisher : Publisher) (time : Nat) : Bool :=
  publisher.waitingSince.any fun since => since + publisher.interval ≤ time

/-- Runs a pass of the loop if it is due. Whatever comes of it, the loop then waits again. -/
def tick (client : Client) (now : Instant) (time : Nat) (publisher : Publisher)
    (workspace : Workspace) : Pass :=
  if publisher.isDue time then
    let result := pass client now publisher workspace
    { result with publisher := { result.publisher with waitingSince := some time } }
  else
    idle publisher workspace

end Publisher

end ConceptScript
