import ConceptScript.Proofs.Workspace.CompletePass

/-!
Contract: a pass publishes exactly what has happened since the last pass that was done.

A history lists what has happened, the latest first, each at an instant of its own. What a pass has
to say can be read off the history alone: an address counts that was updated, or closed while it was
open, since the last pass that found something to say and whose messages were all accepted. The
workspace knows none of this. It compares the instants of documents and close marks with that of the
last pass.

Owns histories, what is read off them, and that the comparison of instants finds the same after
every history.

Does not own passes during which documents change.
-/

set_option autoImplicit false

namespace ConceptScript

open Workspace (Sound)

/-! ## Histories -/

/-- What can happen to documents, to their catalog and to the publisher. -/
inductive Operation where
  | update (uri : Uri) (content : String)
  | close (uri : Uri)
  | install (catalog : Catalog)
  | pass (client : Client)

/-- A workspace and the publisher of its diagnostics. -/
structure Desk where
  workspace : Workspace := {}
  publisher : Publisher

namespace Desk

def step (desk : Desk) (now : Instant) : Operation → Desk
  | .update uri content => { desk with workspace := desk.workspace.update now uri content }
  | .close uri => { desk with workspace := desk.workspace.close now uri }
  | .install catalog => { desk with workspace := (desk.workspace.install catalog).2 }
  | .pass client =>
    let result := Publisher.pass client now desk.publisher desk.workspace
    ⟨result.workspace, result.publisher⟩

/-- The desk after a history, the latest operation first. At the start there is no catalog, no
document has been opened, and no pass was made. -/
def after (interval : Nat) : List (Instant × Operation) → Desk
  | [] => { publisher := { interval := interval } }
  | (now, operation) :: earlier => (after interval earlier).step now operation

end Desk

/-! ## What is read off a history -/

namespace History

/-- The first catalog that was installed. -/
def installed? : List (Instant × Operation) → Option Catalog
  | [] => none
  | (_, .install catalog) :: earlier => (installed? earlier).or (some catalog)
  | (_, .update _ _) :: earlier | (_, .close _) :: earlier | (_, .pass _) :: earlier =>
    installed? earlier

/-- The text of a document while it is open. -/
def content? (uri : Uri) : List (Instant × Operation) → Option String
  | [] => none
  | (_, .update other content) :: earlier =>
    if uri = other then some content else content? uri earlier
  | (_, .close other) :: earlier => if uri = other then none else content? uri earlier
  | (_, .install _) :: earlier | (_, .pass _) :: earlier => content? uri earlier

/-- Whether a pass that has to speak of some addresses is done afterwards. -/
def settles (catalog : Option Catalog) (client : Client) (uris : List Uri) : Bool :=
  catalog.isSome && !uris.isEmpty && uris.all fun uri => client uri = .accepted

/-- The addresses that were updated, or closed while open, since the last pass that was done. -/
def touched : List (Instant × Operation) → List Uri
  | [] => []
  | (_, .update uri _) :: earlier => uri :: touched earlier
  | (_, .close uri) :: earlier =>
    if (content? uri earlier).isSome then uri :: touched earlier else touched earlier
  | (_, .install _) :: earlier => touched earlier
  | (_, .pass client) :: earlier =>
    if settles (installed? earlier) client (touched earlier) then [] else touched earlier

/-- When the last pass started that was done. -/
def lastDone? : List (Instant × Operation) → Option Instant
  | [] => none
  | (now, .pass client) :: earlier =>
    if settles (installed? earlier) client (touched earlier) then some now else lastDone? earlier
  | (_, .update _ _) :: earlier | (_, .close _) :: earlier | (_, .install _) :: earlier =>
    lastDone? earlier

/-- What there is to say about an address: the diagnostics of its text, or that it has none. -/
def expected (catalog : Catalog) (history : List (Instant × Operation)) (uri : Uri) :
    List Diagnostic :=
  match content? uri history with
  | some content => (Analysis.run catalog (.ofString content) none).diagnostics
  | none => []

/-- Every instant is later than those before it. -/
def Timely (history : List (Instant × Operation)) : Prop :=
  history.Pairwise fun later earlier => earlier.1 < later.1

/-- All of a history lies in front of an instant. -/
def Before (now : Instant) (history : List (Instant × Operation)) : Prop :=
  ∀ entry ∈ history, entry.1 < now

theorem Before.of_cons
    {now : Instant} {entry : Instant × Operation} {history : List (Instant × Operation)}
    (before : Before now (entry :: history)) :
    Before now history :=
  fun other isOther => before other (List.mem_cons_of_mem entry isOther)

end History

def Status.text? : Status → Option Text
  | .opened text _ => some text
  | .closed _ | .unknown => none

namespace Workspace

theorem text?_status (workspace : Workspace) (uri : Uri) :
    (workspace.status uri).text? = (workspace.find? uri).map fun entry => entry.document.text := by
  unfold status
  cases workspace.find? uri with
  | some entry => rfl
  | none => cases workspace.closed.lookup uri <;> rfl

/-- The workspace as it will be when it has the catalog. -/
def withCatalog (catalog : Catalog) (workspace : Workspace) : Workspace :=
  { workspace with context := ⟨some catalog⟩ }

theorem withCatalog_of_installed
    {catalog : Catalog} {workspace : Workspace}
    (isInstalled : workspace.context.catalog = some catalog) :
    workspace.withCatalog catalog = workspace := by
  obtain ⟨⟨installed⟩, opened, closed⟩ := workspace
  obtain rfl : installed = some catalog := isInstalled
  rfl

theorem withCatalog_close
    (catalog : Catalog) (workspace : Workspace) (now : Instant) (uri : Uri) :
    (workspace.close now uri).withCatalog catalog =
      (workspace.withCatalog catalog).close now uri := by
  have sameOpen : (workspace.withCatalog catalog).find? uri = workspace.find? uri := rfl
  rw [close, close, sameOpen]
  cases workspace.find? uri <;> rfl

theorem catalog_install (workspace : Workspace) (catalog : Catalog) :
    (workspace.install catalog).2.context.catalog =
      workspace.context.catalog.or (some catalog) := by
  obtain ⟨⟨installed⟩, opened, closed⟩ := workspace
  cases installed <;> rfl

end Workspace

/-! ## Desks follow histories -/

open History

/-- What a desk is, told from what has happened. -/
structure Desk.Follows (history : List (Instant × Operation)) (desk : Desk) : Prop where
  catalog_eq : desk.workspace.context.catalog = installed? history
  /-- As long as there is no catalog, it may be any. -/
  sound : ∀ catalog, (∀ installed ∈ installed? history, installed = catalog) →
    Sound catalog (desk.workspace.withCatalog catalog)
  text_eq : ∀ uri, (desk.workspace.status uri).text? = (content? uri history).map .ofString
  due_iff : ∀ uri, (desk.workspace.status uri).IsDue desk.publisher.lastPublish ↔
    uri ∈ touched history
  marksLate : ∀ mark ∈ desk.workspace.closed,
    Workspace.isLater desk.publisher.lastPublish mark.2 = true
  lastPublish_eq : desk.publisher.lastPublish = lastDone? history
  statusEarly : ∀ {now : Instant}, Before now history →
    ∀ uri instant, (desk.workspace.status uri).since? = some instant → instant < now
  doneEarly : ∀ {now : Instant}, Before now history →
    Workspace.isLater desk.publisher.lastPublish now = true

namespace Desk.Follows

variable {history : List (Instant × Operation)} {desk : Desk} {now : Instant}

/-- At the start nothing is known. -/
theorem nil (interval : Nat) : Follows [] (after interval []) where
  catalog_eq := rfl
  sound _ _ := ⟨rfl, .nil, .nil, by simp [Workspace.find?, Workspace.withCatalog, after],
    by simp [Workspace.find?, Workspace.withCatalog, after]⟩
  text_eq _ := rfl
  due_iff uri := by
    constructor
    · rintro ⟨instant, isSince, -⟩
      cases isSince
    · intro isTouched
      cases isTouched
  marksLate _ isMark := by cases isMark
  lastPublish_eq := rfl
  statusEarly _ _ _ isSince := by cases isSince
  doneEarly _ := rfl

/-- An operation after which documents and close marks are as before, and as much is due. -/
theorem keep
    {operation : Operation} {workspace : Workspace}
    (follows : Follows history desk)
    (catalog_eq : workspace.context.catalog = installed? ((now, operation) :: history))
    (sound : ∀ catalog, (∀ installed ∈ installed? ((now, operation) :: history),
      installed = catalog) → Sound catalog (workspace.withCatalog catalog))
    (sameStatus : ∀ uri, workspace.status uri = desk.workspace.status uri)
    (sameClosed : workspace.closed = desk.workspace.closed)
    (sameContent : ∀ uri, content? uri ((now, operation) :: history) = content? uri history)
    (sameTouched : touched ((now, operation) :: history) = touched history)
    (sameDone : lastDone? ((now, operation) :: history) = lastDone? history) :
    Follows ((now, operation) :: history) ⟨workspace, desk.publisher⟩ where
  catalog_eq := catalog_eq
  sound := sound
  text_eq uri := by
    rw [sameContent]
    exact (congrArg Status.text? (sameStatus uri)).trans (follows.text_eq uri)
  due_iff uri := by
    rw [sameTouched, ← follows.due_iff, sameStatus]
  marksLate mark isMark := follows.marksLate mark (sameClosed ▸ isMark)
  lastPublish_eq := follows.lastPublish_eq.trans sameDone.symm
  statusEarly before uri instant isSince :=
    follows.statusEarly before.of_cons uri instant (sameStatus uri ▸ isSince)
  doneEarly before := follows.doneEarly before.of_cons

/-- An operation that gives one address a status of its own instant. -/
theorem change
    {operation : Operation} {workspace : Workspace} {uri : Uri} {status : Status}
    (follows : Follows history desk)
    (before : Before now history)
    (catalog_eq : workspace.context.catalog = installed? ((now, operation) :: history))
    (sound : ∀ catalog, (∀ installed ∈ installed? ((now, operation) :: history),
      installed = catalog) → Sound catalog (workspace.withCatalog catalog))
    (isStatus : ∀ other, workspace.status other =
      if other = uri then status else desk.workspace.status other)
    (isNow : status.since? = some now)
    (isClosed : ∀ mark ∈ workspace.closed, mark ∈ desk.workspace.closed ∨ mark.2 = now)
    (isContent : ∀ other, content? other ((now, operation) :: history) =
      if other = uri then content? uri ((now, operation) :: history) else content? other history)
    (isText : status.text? = (content? uri ((now, operation) :: history)).map .ofString)
    (isTouched : touched ((now, operation) :: history) = uri :: touched history)
    (sameDone : lastDone? ((now, operation) :: history) = lastDone? history) :
    Follows ((now, operation) :: history) ⟨workspace, desk.publisher⟩ where
  catalog_eq := catalog_eq
  sound := sound
  text_eq other := by
    show (workspace.status other).text? = _
    rw [isStatus, isContent]
    split
    · exact isText
    · exact follows.text_eq other
  due_iff other := by
    show (workspace.status other).IsDue _ ↔ _
    rw [isStatus, isTouched, List.mem_cons]
    split
    · next isSame => exact iff_of_true ⟨now, isNow, follows.doneEarly before⟩ (.inl isSame)
    · next different =>
      rw [follows.due_iff]
      exact (or_iff_right different).symm
  marksLate mark isMark := by
    rcases isClosed mark isMark with isOld | isNew
    · exact follows.marksLate mark isOld
    · rw [isNew]
      exact follows.doneEarly before
  lastPublish_eq := follows.lastPublish_eq.trans sameDone.symm
  statusEarly beforeLater other instant isSince := by
    replace isSince : (workspace.status other).since? = some instant := isSince
    rw [isStatus] at isSince
    split at isSince
    · obtain rfl := Option.some.inj (isNow.symm.trans isSince)
      exact beforeLater _ List.mem_cons_self
    · exact follows.statusEarly beforeLater.of_cons other instant isSince
  doneEarly beforeLater := follows.doneEarly beforeLater.of_cons

theorem update
    (follows : Follows history desk) (before : Before now history) (uri : Uri)
    (content : String) :
    Follows ((now, .update uri content) :: history) (desk.step now (.update uri content)) := by
  apply follows.change before follows.catalog_eq
  · intro catalog isCatalog
    exact (follows.sound catalog isCatalog).update now uri content
  · exact desk.workspace.status_update now uri content
  · rfl
  · intro mark isMark
    exact .inl (List.mem_filter.1 isMark).1
  · intro other
    simp [content?]
  · simp [content?, Status.text?]
  · rfl
  · rfl

theorem close
    (follows : Follows history desk) (before : Before now history) (uri : Uri) :
    Follows ((now, .close uri) :: history) (desk.step now (.close uri)) := by
  have sound : ∀ catalog, (∀ installed ∈ installed? ((now, .close uri) :: history),
      installed = catalog) →
        Sound catalog ((desk.workspace.close now uri).withCatalog catalog) := by
    intro catalog isCatalog
    rw [Workspace.withCatalog_close]
    exact (follows.sound catalog isCatalog).close now uri
  have isText := (follows.text_eq uri).symm.trans (desk.workspace.text?_status uri)
  cases isOpen : desk.workspace.find? uri with
  | none =>
    have noContent : content? uri history = none := by simpa [isOpen] using isText
    have unchanged := Workspace.close_of_not_open isOpen now
    rw [unchanged] at sound
    rw [step, unchanged]
    apply follows.keep follows.catalog_eq sound (fun _ => rfl) rfl
    · intro other
      rw [content?]
      split
      · next isSame => rw [isSame, noContent]
      · rfl
    · rw [touched, noContent]
      rfl
    · rfl
  | some entry =>
    have isContent : (content? uri history).isSome = true := by
      have isSome := congrArg Option.isSome isText
      simpa [isOpen] using isSome
    apply follows.change before ?_ sound (Workspace.status_close isOpen now) rfl
    · intro mark isMark
      rw [Workspace.close, isOpen] at isMark
      rcases List.mem_cons.1 isMark with rfl | isKept
      · exact .inr rfl
      · exact .inl (List.mem_filter.1 isKept).1
    · intro other
      simp [content?]
    · simp [content?, Status.text?]
    · rw [touched, isContent]
      rfl
    · rfl
    · rw [Workspace.close, isOpen]
      exact follows.catalog_eq

theorem install
    (follows : Follows history desk) (catalog : Catalog) :
    Follows ((now, .install catalog) :: history) (desk.step now (.install catalog)) := by
  have isInstalled := desk.workspace.catalog_install catalog
  rw [follows.catalog_eq] at isInstalled
  apply follows.keep isInstalled
  · intro other isOther
    refine follows.sound other fun installed isFirst => isOther installed ?_
    rw [installed?, Option.mem_def.1 isFirst]
    rfl
  · exact fun _ => rfl
  · rfl
  · exact fun _ => rfl
  · rfl
  · rfl

/-! ## Passes -/

theorem sound_installed
    {catalog : Catalog}
    (follows : Follows history desk)
    (isInstalled : installed? history = some catalog) :
    Sound catalog desk.workspace := by
  have sound := follows.sound catalog fun installed isFirst =>
    Option.some.inj (isFirst.symm.trans isInstalled)
  rwa [Workspace.withCatalog_of_installed (follows.catalog_eq.trans isInstalled)] at sound

/-- What is due by the instants is what was touched. -/
theorem mem_due_iff
    {catalog : Catalog}
    (follows : Follows history desk)
    (isInstalled : installed? history = some catalog) (uri : Uri) :
    uri ∈ desk.publisher.due desk.workspace ↔ uri ∈ touched history := by
  rw [Publisher.mem_due_iff (follows.sound_installed isInstalled), follows.due_iff]

theorem due_eq_nil_iff
    {catalog : Catalog}
    (follows : Follows history desk)
    (isInstalled : installed? history = some catalog) :
    desk.publisher.due desk.workspace = [] ↔ touched history = [] := by
  simp only [List.eq_nil_iff_forall_not_mem, follows.mem_due_iff isInstalled]

theorem all_due_iff
    {catalog : Catalog}
    (follows : Follows history desk)
    (isInstalled : installed? history = some catalog) (client : Client) :
    (∀ uri ∈ desk.publisher.due desk.workspace, client uri = .accepted) ↔
      ∀ uri ∈ touched history, client uri = .accepted := by
  simp only [follows.mem_due_iff isInstalled]

/-- A pass that is not done leaves everything due. -/
theorem keep_of_not_settled
    {client : Client} {workspace : Workspace}
    (follows : Follows history desk)
    (notSettled : settles (installed? history) client (touched history) = false)
    (catalog_eq : workspace.context.catalog = installed? history)
    (sound : ∀ catalog, (∀ installed ∈ installed? history, installed = catalog) →
      Sound catalog (workspace.withCatalog catalog))
    (sameStatus : ∀ uri, workspace.status uri = desk.workspace.status uri)
    (sameClosed : workspace.closed = desk.workspace.closed) :
    Follows ((now, .pass client) :: history) ⟨workspace, desk.publisher⟩ := by
  refine follows.keep catalog_eq ?_ sameStatus sameClosed (fun _ => rfl) ?_ ?_
  · exact sound
  · rw [touched, notSettled]
    rfl
  · rw [lastDone?, notSettled]
    rfl

/-- A pass that is done leaves nothing due. -/
theorem commit
    {catalog : Catalog} {client : Client} {later : Workspace}
    (follows : Follows history desk)
    (before : Before now history)
    (isInstalled : installed? history = some catalog)
    (isSettled : settles (installed? history) client (touched history) = true)
    (analysed : Publisher.Analysed catalog desk.workspace later) :
    Follows ((now, .pass client) :: history)
      ⟨later.forgetClosed now, { desk.publisher with lastPublish := some now }⟩ := by
  have sound := analysed.sound.forgetClosed now
  have noneTouched : touched ((now, .pass client) :: history) = [] := by
    rw [touched, isSettled]
    rfl
  have isDone : lastDone? ((now, .pass client) :: history) = some now := by
    rw [lastDone?, isSettled]
    rfl
  have sameText : ∀ uri, ((later.forgetClosed now).status uri).text? =
      (desk.workspace.status uri).text? := by
    intro uri
    rw [Workspace.text?_status, ← analysed.status_eq, Workspace.text?_status]
    rfl
  have oldInstant : ∀ uri instant, ((later.forgetClosed now).status uri).since? = some instant →
      (desk.workspace.status uri).since? = some instant := by
    intro uri instant isSince
    rw [← analysed.status_eq]
    rcases Workspace.status_forgetClosed analysed.sound now uri with isSame | ⟨_, _, _, isUnknown⟩
    · rwa [← isSame]
    · rw [isUnknown] at isSince
      cases isSince
  refine ⟨?_, ?_, ?_, ?_, ?_, ?_, ?_, ?_⟩
  · exact sound.isInstalled.trans isInstalled.symm
  · intro other isOther
    obtain rfl := isOther catalog isInstalled
    rwa [Workspace.withCatalog_of_installed sound.isInstalled]
  · intro uri
    exact (sameText uri).trans (follows.text_eq uri)
  · intro uri
    rw [noneTouched]
    refine iff_of_false ?_ (List.not_mem_nil)
    rintro ⟨instant, isSince, isLater⟩
    have isEarly := follows.statusEarly before uri instant (oldInstant uri instant isSince)
    have isLate : now < instant := by simpa [Workspace.isLater] using isLater
    exact Nat.lt_asymm isEarly isLate
  · intro mark isMark
    simpa [Workspace.isLater] using (List.mem_filter.1 isMark).2
  · exact isDone.symm
  · intro instant beforeLater uri since isSince
    exact follows.statusEarly beforeLater.of_cons uri since (oldInstant uri since isSince)
  · intro instant beforeLater
    simpa [Workspace.isLater] using beforeLater _ List.mem_cons_self

theorem pass
    (follows : Follows history desk) (before : Before now history) (client : Client) :
    Follows ((now, .pass client) :: history) (desk.step now (.pass client)) := by
  cases isInstalled : installed? history with
  | none =>
    have notInstalled := follows.catalog_eq.trans isInstalled
    have notSettled : settles (installed? history) client (touched history) = false := by
      simp [settles, isInstalled]
    rw [step, Publisher.pass_of_not_installed notInstalled]
    exact follows.keep_of_not_settled notSettled follows.catalog_eq follows.sound
      (fun _ => rfl) rfl
  | some catalog =>
    have passes := Publisher.passes_of_sound (follows.sound_installed isInstalled) client now
      desk.publisher
    have soundLater : ∀ {later : Workspace}, Sound catalog later →
        ∀ other, (∀ installed ∈ installed? history, installed = other) →
          Sound other (later.withCatalog other) := by
      intro later sound other isOther
      obtain rfl := isOther catalog isInstalled
      rwa [Workspace.withCatalog_of_installed sound.isInstalled]
    rw [step]
    generalize Publisher.pass client now desk.publisher desk.workspace = result at passes
    cases passes with
    | idle nothingDue =>
      have noneTouched := (follows.due_eq_nil_iff isInstalled).1 nothingDue
      have notSettled : settles (installed? history) client (touched history) = false := by
        simp [settles, noneTouched]
      exact follows.keep_of_not_settled notSettled follows.catalog_eq follows.sound
        (fun _ => rfl) rfl
    | fails isFailure notAccepted analysed =>
      have notSettled : settles (installed? history) client (touched history) = false := by
        rw [follows.all_due_iff isInstalled] at notAccepted
        simpa [settles, isInstalled] using fun _ => by simpa using notAccepted
      exact follows.keep_of_not_settled notSettled
        (analysed.sound.isInstalled.trans isInstalled.symm) (soundLater analysed.sound)
        analysed.status_eq analysed.closed_eq
    | commits notIdle allAccepted analysed =>
      have isSettled : settles (installed? history) client (touched history) = true := by
        rw [follows.all_due_iff isInstalled] at allAccepted
        rw [Ne, follows.due_eq_nil_iff isInstalled] at notIdle
        simpa [settles, isInstalled, notIdle] using allAccepted
      exact follows.commit before isInstalled isSettled analysed

end Desk.Follows

namespace Desk

/-- After every history, a desk is what the history says. -/
theorem follows_after
    (interval : Nat) {history : List (Instant × Operation)}
    (isTimely : Timely history) :
    Follows history (after interval history) := by
  induction history with
  | nil => exact .nil interval
  | cons entry earlier inductionHypothesis =>
    obtain ⟨before, earlierTimely⟩ := List.pairwise_cons.1 isTimely
    obtain ⟨now, operation⟩ := entry
    have follows := inductionHypothesis earlierTimely
    cases operation with
    | update uri content => exact follows.update before uri content
    | close uri => exact follows.close before uri
    | install catalog => exact follows.install catalog
    | pass client => exact follows.pass before client

theorem Follows.diagnostics_eq
    {history : List (Instant × Operation)} {desk : Desk}
    (follows : Follows history desk) (catalog : Catalog) (uri : Uri) :
    (desk.workspace.status uri).diagnostics catalog = expected catalog history uri := by
  have isText := follows.text_eq uri
  unfold expected
  cases isStatus : desk.workspace.status uri with
  | opened text updatedAt =>
    rw [isStatus] at isText
    obtain ⟨content, isContent, rfl⟩ := Option.map_eq_some_iff.1 isText.symm
    rw [isContent]
    rfl
  | closed closedAt =>
    rw [isStatus] at isText
    rw [Option.map_eq_none_iff.1 isText.symm]
    rfl
  | unknown =>
    rw [isStatus] at isText
    rw [Option.map_eq_none_iff.1 isText.symm]
    rfl

/-- No address is open and marked as closed. -/
theorem Follows.not_mem_closed
    {history : List (Instant × Operation)} {desk : Desk}
    (follows : Follows history desk) (uri : Uri)
    (isOpen : uri ∈ desk.workspace.opened.map Prod.fst) :
    uri ∉ desk.workspace.closed.map Prod.fst := by
  -- Which catalog there will be does not matter, so any will do where there is none yet.
  have sound := follows.sound ((installed? history).getD .empty) fun installed isFirst => by
    rw [Option.mem_def.1 isFirst, Option.getD_some]
  intro isClosed
  obtain ⟨⟨_, entry⟩, isEntry, rfl⟩ := List.mem_map.1 isOpen
  obtain ⟨⟨other, closedAt⟩, isMark, rfl⟩ := List.mem_map.1 isClosed
  have noMark := sound.disjoint _ entry ((lookup_eq_some_iff_mem sound.openedDistinct _ _).2 isEntry)
  have hasMark := (lookup_eq_some_iff_mem sound.closedDistinct _ _).2 isMark
  rw [noMark] at hasMark
  cases hasMark

/-- What a pass publishes over a catalog. -/
theorem Follows.published
    {history : List (Instant × Operation)} {desk : Desk} {catalog : Catalog}
    (follows : Follows history desk)
    (isInstalled : installed? history = some catalog) {client : Client} {now : Instant}
    {result : Publisher.Pass}
    (passes : Publisher.Passes catalog client now desk.publisher desk.workspace result) :
    ((∃ count, result.outcome = .published count) ↔
        ∀ uri ∈ touched history, client uri = .accepted) ∧
      ∀ count, result.outcome = .published count →
        count = result.delivered.length ∧
        (result.delivered.map Dispatch.uri).Nodup ∧
        ∀ uri diagnostics, ⟨uri, diagnostics⟩ ∈ result.delivered ↔
          uri ∈ touched history ∧ diagnostics = expected catalog history uri := by
  have sound := follows.sound_installed isInstalled
  cases passes with
  | idle nothingDue =>
    have noneTouched := (follows.due_eq_nil_iff isInstalled).1 nothingDue
    refine ⟨by simp [Publisher.idle, noneTouched], ?_⟩
    intro count isCount
    obtain rfl : 0 = count := by simpa [Publisher.idle] using isCount
    simp [Publisher.idle, noneTouched]
  | fails isFailure notAccepted analysed =>
    rw [follows.all_due_iff isInstalled] at notAccepted
    refine ⟨iff_of_false ?_ notAccepted, ?_⟩
    · rintro ⟨count, isCount⟩
      exact isFailure count isCount
    · intro count isCount
      exact absurd isCount (isFailure count)
  | commits notIdle allAccepted analysed =>
    rw [follows.all_due_iff isInstalled] at allAccepted
    refine ⟨iff_of_true ⟨_, rfl⟩ allAccepted, ?_⟩
    rintro _ ⟨⟩
    refine ⟨(List.length_map _).symm, ?_, ?_⟩
    · simpa [Publisher.messages, Function.comp_def] using Publisher.nodup_due sound desk.publisher
    · intro uri diagnostics
      simp only [Publisher.messages, List.mem_map, Dispatch.mk.injEq,
        follows.diagnostics_eq catalog, follows.mem_due_iff isInstalled]
      constructor
      · rintro ⟨_, isTouched, rfl, rfl⟩
        exact ⟨isTouched, rfl⟩
      · rintro ⟨isTouched, rfl⟩
        exact ⟨uri, isTouched, rfl, rfl⟩

/-- A pass that is not done leaves the publisher and the close marks as they are. -/
theorem Follows.unchanged
    {history : List (Instant × Operation)} {desk : Desk} {catalog : Catalog}
    (follows : Follows history desk)
    (isInstalled : installed? history = some catalog) {client : Client} {now : Instant}
    {result : Publisher.Pass}
    (passes : Publisher.Passes catalog client now desk.publisher desk.workspace result)
    (notDone : touched history = [] ∨ ∀ count, result.outcome ≠ .published count) :
    result.publisher = desk.publisher ∧ result.workspace.closed = desk.workspace.closed := by
  cases passes with
  | idle nothingDue => exact ⟨rfl, rfl⟩
  | fails isFailure notAccepted analysed => exact ⟨rfl, analysed.closed_eq⟩
  | commits notIdle allAccepted analysed =>
    rcases notDone with noneTouched | isFailure
    · exact absurd ((follows.due_eq_nil_iff isInstalled).2 noneTouched) notIdle
    · exact absurd rfl (isFailure _)

/-- **A pass publishes exactly what was touched.** Whatever has happened before, at instants of its
own each, a pass over a catalog succeeds exactly if the client accepts what it is told about the
addresses touched since the last pass that was done. It then sends one message about each of them
and about no other, and counts them. The message has the diagnostics of the text as it is, or none
if the document is closed. Without a catalog, with nothing to say or without success, a pass leaves
the publisher and the close marks as they are. No document is open and marked as closed, and every
close mark is later than the last pass that was done. -/
theorem pass_publishes_touched
    (interval : Nat) (history : List (Instant × Operation)) (client : Client) (now : Instant)
    (isTimely : Timely ((now, .pass client) :: history)) :
    let desk := after interval history
    let result := Publisher.pass client now desk.publisher desk.workspace
    (∀ catalog, installed? history = some catalog →
        ((∃ count, result.outcome = .published count) ↔
            ∀ uri ∈ touched history, client uri = .accepted) ∧
          ∀ count, result.outcome = .published count →
            count = result.delivered.length ∧
            (result.delivered.map Dispatch.uri).Nodup ∧
            ∀ uri diagnostics, ⟨uri, diagnostics⟩ ∈ result.delivered ↔
              uri ∈ touched history ∧ diagnostics = expected catalog history uri) ∧
      (installed? history = none → result.outcome = .published 0 ∧ result.delivered = []) ∧
      (installed? history = none ∨ touched history = [] ∨
          (∀ count, result.outcome ≠ .published count) →
        result.publisher = desk.publisher ∧ result.workspace.closed = desk.workspace.closed) ∧
      desk.publisher.lastPublish = lastDone? history ∧
      (∀ uri ∈ desk.workspace.opened.map Prod.fst, uri ∉ desk.workspace.closed.map Prod.fst) ∧
      ∀ mark ∈ desk.workspace.closed, ∀ last ∈ desk.publisher.lastPublish, last < mark.2 := by
  intro desk result
  have follows : Follows history desk := follows_after interval (List.pairwise_cons.1 isTimely).2
  have idle : installed? history = none → result = Publisher.idle desk.publisher desk.workspace :=
    fun notInstalled =>
      Publisher.pass_of_not_installed (follows.catalog_eq.trans notInstalled) client now _
  have passes : ∀ catalog, installed? history = some catalog →
      Publisher.Passes catalog client now desk.publisher desk.workspace result :=
    fun catalog isInstalled =>
      Publisher.passes_of_sound (follows.sound_installed isInstalled) client now _
  refine ⟨?_, ?_, ?_, follows.lastPublish_eq, follows.not_mem_closed, ?_⟩
  · intro catalog isInstalled
    exact follows.published isInstalled (passes catalog isInstalled)
  · intro notInstalled
    rw [idle notInstalled]
    exact ⟨rfl, rfl⟩
  · intro notDone
    cases isInstalled : installed? history with
    | none =>
      rw [idle isInstalled]
      exact ⟨rfl, rfl⟩
    | some catalog =>
      refine follows.unchanged isInstalled (passes catalog isInstalled) (notDone.resolve_left ?_)
      rw [isInstalled]
      exact Option.some_ne_none catalog
  · intro mark isMark last isLast
    have isLate := follows.marksLate mark isMark
    rw [Option.mem_def.1 isLast] at isLate
    simpa [Workspace.isLater] using isLate

/-- Two documents are opened before there is a catalog. The client refuses what the first pass has
to say about one of them, and the other one is closed. -/
def refusedPass : List (Instant × Operation) :=
  [(5, .close ⟨"file:///a"⟩),
    (4, .pass fun uri => if uri = ⟨"file:///b"⟩ then .refused else .accepted),
    (3, .install .empty),
    (2, .update ⟨"file:///b"⟩ "part b;"),
    (1, .update ⟨"file:///a"⟩ "part a;")]

/-- The next pass speaks of both documents again, and of each once. -/
theorem pass_publishes_touched_after_refusal :
    let desk := after 500 refusedPass
    let result := Publisher.pass (fun _ => .accepted) 6 desk.publisher desk.workspace
    Timely ((6, .pass fun _ => .accepted) :: refusedPass) ∧
      touched refusedPass = [⟨"file:///a"⟩, ⟨"file:///b"⟩, ⟨"file:///a"⟩] ∧
      result.outcome = .published 2 ∧
      (result.delivered.map Dispatch.uri).Nodup ∧
      ⟨⟨"file:///a"⟩, []⟩ ∈ result.delivered ∧
      ⟨⟨"file:///b"⟩, (Analysis.run .empty (.ofString "part b;") none).diagnostics⟩ ∈
        result.delivered := by
  intro desk result
  have isTimely : Timely ((6, .pass fun _ => .accepted) :: refusedPass) := by
    unfold Timely
    decide
  have isTouched : touched refusedPass =
      [⟨"file:///a"⟩, ⟨"file:///b"⟩, ⟨"file:///a"⟩] := by
    decide +kernel
  have isOutcome : result.outcome = .published 2 := by
    decide +kernel
  have published :=
    (pass_publishes_touched 500 refusedPass (fun _ => .accepted) 6 isTimely).1 .empty rfl
  obtain ⟨-, isNodup, isMember⟩ := published.2 2 isOutcome
  refine ⟨isTimely, isTouched, isOutcome, isNodup, (isMember _ _).2 ⟨?_, rfl⟩,
    (isMember _ _).2 ⟨?_, rfl⟩⟩
  · simp [isTouched]
  · simp [isTouched]

end Desk

end ConceptScript
