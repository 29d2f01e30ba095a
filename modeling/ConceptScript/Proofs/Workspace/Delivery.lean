import ConceptScript.Proofs.Workspace.Interleaving

/-!
Contract: no diagnostics are lost, however changes and passes interleave.

An address is due if its status is later than the last pass that was done. The argument is about
one address at a time. A change during a pass makes its address due for the next one, so that the
pass may tell the client anything about it. For all other addresses, the pass keeps what it has
collected in line with their statuses, and has either told the client or still has it to tell.

Owns what the client has to know, the invariant of all reachable systems, and that the client knows
it of every address that is not due.

Does not own when passes are made.
-/

set_option autoImplicit false

namespace ConceptScript

/-! ## What the client has to know -/

namespace Status

/-- The diagnostics of a document, which has none while it is not open. -/
def diagnostics (catalog : Catalog) : Status → List Diagnostic
  | .opened text _ => (Analysis.run catalog text none).diagnostics
  | .closed _ => []
  | .unknown => []

def IsOpen : Status → Prop
  | .opened _ _ => True
  | .closed _ => False
  | .unknown => False

/-- The status has changed since the given instant. -/
def IsDue (since : Option Instant) (status : Status) : Prop :=
  ∃ instant, status.since? = some instant ∧ Workspace.isLater since instant = true

/-- What the client was last told is up to date. Of a document that is not open it may not have been
told anything. -/
def Shown (catalog : Catalog) (last : Option (List Diagnostic)) : Status → Prop
  | .opened text _ => last = some (Analysis.run catalog text none).diagnostics
  | .closed _ => ∀ diagnostics, last = some diagnostics → diagnostics = []
  | .unknown => ∀ diagnostics, last = some diagnostics → diagnostics = []

theorem shown_diagnostics (catalog : Catalog) (status : Status) :
    status.Shown catalog (some (status.diagnostics catalog)) := by
  cases status with
  | opened text updatedAt => rfl
  | closed closedAt => exact fun _ isSome => (Option.some.inj isSome).symm
  | unknown => exact fun _ isSome => (Option.some.inj isSome).symm

theorem diagnostics_of_not_open
    {status : Status}
    (notOpen : ¬ status.IsOpen) (catalog : Catalog) :
    status.diagnostics catalog = [] := by
  cases status with
  | opened text updatedAt => exact absurd trivial notOpen
  | closed closedAt => rfl
  | unknown => rfl

end Status

namespace Workspace

variable {catalog : Catalog} {workspace : Workspace}

theorem mem_updatedSince_iff_isDue
    (sound : Sound catalog workspace) (since : Option Instant) (uri : Uri) :
    uri ∈ workspace.updatedSince since ↔
      (workspace.status uri).IsOpen ∧ (workspace.status uri).IsDue since := by
  rw [mem_updatedSince_iff sound]
  constructor
  · rintro ⟨text, updatedAt, isStatus, late⟩
    rw [isStatus]
    exact ⟨trivial, updatedAt, rfl, late⟩
  · rintro ⟨isOpen, instant, isSince, late⟩
    cases isStatus : workspace.status uri with
    | opened text updatedAt =>
      rw [isStatus] at isSince
      obtain rfl := Option.some.inj isSince
      exact ⟨text, updatedAt, rfl, late⟩
    | closed closedAt =>
      rw [isStatus] at isOpen
      cases isOpen
    | unknown =>
      rw [isStatus] at isOpen
      cases isOpen

theorem mem_closedSince_iff_isDue
    (sound : Sound catalog workspace) (since : Option Instant) (uri : Uri) :
    uri ∈ workspace.closedSince since ↔
      ¬ (workspace.status uri).IsOpen ∧ (workspace.status uri).IsDue since := by
  rw [mem_closedSince_iff sound]
  constructor
  · rintro ⟨closedAt, isStatus, late⟩
    rw [isStatus]
    exact ⟨id, closedAt, rfl, late⟩
  · rintro ⟨notOpen, instant, isSince, late⟩
    cases isStatus : workspace.status uri with
    | opened text updatedAt =>
      rw [isStatus] at notOpen
      exact absurd trivial notOpen
    | closed closedAt =>
      rw [isStatus] at isSince
      obtain rfl := Option.some.inj isSince
      exact ⟨closedAt, rfl, late⟩
    | unknown =>
      rw [isStatus] at isSince
      cases isSince

/-- The diagnostics found are those of the status, if the document is open. -/
theorem diagnose_eq
    (sound : Sound catalog workspace) (uri : Uri) :
    (Publisher.diagnose workspace uri).1 = some ((workspace.status uri).diagnostics catalog) ∧
        (workspace.status uri).IsOpen ∨
      (Publisher.diagnose workspace uri).1 = none ∧ ¬ (workspace.status uri).IsOpen := by
  cases isOpen : workspace.find? uri with
  | some entry =>
    left
    rw [status_of_find? isOpen]
    exact ⟨(diagnose_of_open sound isOpen).1, trivial⟩
  | none =>
    right
    refine ⟨by rw [diagnose_of_not_open isOpen], ?_⟩
    intro isStatusOpen
    cases isClosed : workspace.closed.lookup uri with
    | none => simp [status, isOpen, isClosed, Status.IsOpen] at isStatusOpen
    | some closedAt => simp [status, isOpen, isClosed, Status.IsOpen] at isStatusOpen

end Workspace

/-! ## The invariant -/

namespace Publisher.Phase

def startedAt? : Phase → Option Instant
  | .idle => none
  | .started startedAt _ => some startedAt
  | .collected startedAt _ _ => some startedAt
  | .analysing startedAt _ _ _ => some startedAt
  | .delivering startedAt _ _ => some startedAt

/-- What a pass took note of at its start, while it still needs it. -/
def since? : Phase → Option (Option Instant)
  | .started _ since => some since
  | .collected _ since _ => some since
  | .idle | .analysing _ _ _ _ | .delivering _ _ _ => none

/-- The addresses that a pass still has something to tell about. -/
def Mentions (uri : Uri) : Phase → Prop
  | .idle => False
  | .started _ _ => False
  | .collected _ _ changed => uri ∈ changed
  | .analysing _ changed closed prepared =>
    uri ∈ changed ∨ uri ∈ closed ∨ ∃ dispatch ∈ prepared, dispatch.uri = uri
  | .delivering _ pending _ => ∃ dispatch ∈ pending, dispatch.uri = uri

/-- A pass is right about an address with a status that has not changed since the pass started. -/
def Accounts (catalog : Catalog) (since : Option Instant) (uri : Uri) (status : Status)
    (last : Option (List Diagnostic)) : Phase → Prop
  | .idle => True
  | .started _ _ => True
  | .collected _ _ changed => uri ∈ changed ↔ status.IsOpen ∧ status.IsDue since
  | .analysing _ changed closed prepared =>
    (uri ∈ changed → status.IsOpen) ∧ (uri ∈ closed → ¬ status.IsOpen) ∧
      (∀ dispatch ∈ prepared, dispatch.uri = uri →
        dispatch.diagnostics = status.diagnostics catalog) ∧
      (status.Shown catalog last ∨ uri ∈ changed ∨ uri ∈ closed ∨
        ∃ dispatch ∈ prepared, dispatch.uri = uri)
  | .delivering _ pending isRefused =>
    (∀ dispatch ∈ pending, dispatch.uri = uri →
        dispatch.diagnostics = status.diagnostics catalog) ∧
      (status.Shown catalog last ∨ (∃ dispatch ∈ pending, dispatch.uri = uri) ∨
        isRefused = true)

end Publisher.Phase

namespace System

/-- What holds of an address. A pass speaks only of addresses that are due, and it is right about
those that have not changed since it started. -/
structure Covered
    (catalog : Catalog) (since : Option Instant) (phase : Publisher.Phase) (uri : Uri)
    (status : Status) (last : Option (List Diagnostic)) : Prop where
  dueOrShown : status.IsDue since ∨ status.Shown catalog last
  mentioned : phase.Mentions uri → status.IsDue since
  accounted : (∃ startedAt ∈ phase.startedAt?, status.IsDue (some startedAt)) ∨
    phase.Accounts catalog since uri status last

structure Invariant (catalog : Catalog) (system : System) : Prop where
  sound : system.workspace.Sound catalog
  published : ∀ instant ∈ system.publisher.lastPublish, instant ≤ system.clock
  began : ∀ startedAt ∈ system.phase.startedAt?, startedAt ≤ system.clock
  noted : ∀ since ∈ system.phase.since?, since = system.publisher.lastPublish
  covered : ∀ uri, Covered catalog system.publisher.lastPublish system.phase uri
    (system.workspace.status uri) (system.lastDelivered? uri)

variable {catalog : Catalog} {system : System}

theorem invariant_initial (catalog : Catalog) (interval : Nat) (clock : Instant) :
    Invariant catalog (initial catalog interval clock) where
  sound := ⟨rfl, .nil, .nil, fun _ _ isOpen => (by cases isOpen), fun _ _ isOpen => (by cases isOpen)⟩
  published := fun _ isSome => (by cases isSome)
  began := fun _ isSome => (by cases isSome)
  noted := fun _ isSome => (by cases isSome)
  covered := fun _ => ⟨.inr fun _ isSome => (by cases isSome), False.elim, .inr trivial⟩

/-! ## Changes -/

/-- An address that has changed since the pass started is due, whatever the pass says of it. -/
theorem covered_of_fresh
    {since : Option Instant} {phase : Publisher.Phase} {uri : Uri} {status : Status}
    {last : Option (List Diagnostic)}
    (isDue : status.IsDue since)
    (isFresh : ∀ startedAt ∈ phase.startedAt?, status.IsDue (some startedAt)) :
    Covered catalog since phase uri status last := by
  refine ⟨.inl isDue, fun _ => isDue, ?_⟩
  cases phase with
  | idle => exact .inr trivial
  | started startedAt _ => exact .inr trivial
  | collected startedAt _ _ => exact .inl ⟨startedAt, rfl, isFresh startedAt rfl⟩
  | analysing startedAt _ _ _ => exact .inl ⟨startedAt, rfl, isFresh startedAt rfl⟩
  | delivering startedAt _ _ => exact .inl ⟨startedAt, rfl, isFresh startedAt rfl⟩

theorem isLater_of_le
    {since : Option Instant} {clock now : Instant}
    (isBefore : ∀ instant ∈ since, instant ≤ clock)
    (isNow : clock < now) :
    Workspace.isLater since now = true := by
  cases since with
  | none => rfl
  | some instant =>
    simpa [Workspace.isLater] using Nat.lt_of_le_of_lt (isBefore instant rfl) isNow

/-- A change of one address at a new instant, with all others as they were. -/
theorem Invariant.change
    (invariant : Invariant catalog system) {workspace : Workspace} {uri : Uri} {now : Instant}
    (isNow : system.clock < now)
    (sound : workspace.Sound catalog)
    (isChanged : (workspace.status uri).since? = some now)
    (sameOther : ∀ other, other ≠ uri → workspace.status other = system.workspace.status other) :
    Invariant catalog { system with workspace := workspace, clock := now } where
  sound := sound
  published := fun instant isLast =>
    Nat.le_of_lt (Nat.lt_of_le_of_lt (invariant.published instant isLast) isNow)
  began := fun startedAt isStart =>
    Nat.le_of_lt (Nat.lt_of_le_of_lt (invariant.began startedAt isStart) isNow)
  noted := invariant.noted
  covered := by
    intro other
    by_cases same : other = uri
    · subst same
      apply covered_of_fresh
      · exact ⟨now, isChanged, isLater_of_le invariant.published isNow⟩
      · intro startedAt isStart
        refine ⟨now, isChanged, isLater_of_le ?_ isNow⟩
        rintro instant ⟨⟩
        exact invariant.began startedAt isStart
    · have covered := invariant.covered other
      rw [← sameOther other same] at covered
      exact covered

theorem Invariant.update
    (invariant : Invariant catalog system) {now : Instant} (uri : Uri) (content : String)
    (isNow : system.clock < now) :
    Invariant catalog
      { system with workspace := system.workspace.update now uri content, clock := now } := by
  apply invariant.change isNow (invariant.sound.update now uri content)
  · rw [Workspace.status_update, if_pos rfl]
    rfl
  · intro other different
    rw [Workspace.status_update, if_neg different]

theorem Invariant.close
    (invariant : Invariant catalog system) {now : Instant} (uri : Uri)
    (isNow : system.clock < now) :
    Invariant catalog
      { system with workspace := system.workspace.close now uri, clock := now } := by
  cases isOpen : system.workspace.find? uri with
  | none =>
    rw [Workspace.close_of_not_open isOpen]
    refine ⟨invariant.sound, ?_, ?_, invariant.noted, invariant.covered⟩
    · intro instant isLast
      exact Nat.le_of_lt (Nat.lt_of_le_of_lt (invariant.published instant isLast) isNow)
    · intro startedAt isStart
      exact Nat.le_of_lt (Nat.lt_of_le_of_lt (invariant.began startedAt isStart) isNow)
  | some entry =>
    apply invariant.change isNow (invariant.sound.close now uri)
    · rw [Workspace.status_close isOpen, if_pos rfl]
      rfl
    · intro other different
      rw [Workspace.status_close isOpen, if_neg different]

/-! ## Collecting -/

/-- The pass goes on to another phase, and workspace and client are as they were. -/
theorem Invariant.goOn
    (invariant : Invariant catalog system) {phase : Publisher.Phase}
    (began : ∀ startedAt ∈ phase.startedAt?, startedAt ≤ system.clock)
    (noted : ∀ since ∈ phase.since?, since = system.publisher.lastPublish)
    (mentioned : ∀ uri, phase.Mentions uri →
      (system.workspace.status uri).IsDue system.publisher.lastPublish)
    (accounted : ∀ uri,
      (∃ startedAt ∈ phase.startedAt?, (system.workspace.status uri).IsDue (some startedAt)) ∨
        phase.Accounts catalog system.publisher.lastPublish uri (system.workspace.status uri)
          (system.lastDelivered? uri)) :
    Invariant catalog { system with phase := phase } where
  sound := invariant.sound
  published := invariant.published
  began := began
  noted := noted
  covered := fun uri => ⟨(invariant.covered uri).dueOrShown, mentioned uri, accounted uri⟩

theorem Invariant.abandon (invariant : Invariant catalog system) :
    Invariant catalog { system with phase := .idle } := by
  apply invariant.goOn
  · intro startedAt isStart
    cases isStart
  · intro since isSince
    cases isSince
  · intro uri isMentioned
    cases isMentioned
  · exact fun _ => .inr trivial

theorem Invariant.start
    (invariant : Invariant catalog system) {now : Instant}
    (isNow : system.clock < now) :
    Invariant catalog
      { system with clock := now, phase := .started now system.publisher.lastPublish } where
  sound := invariant.sound
  published := fun instant isLast =>
    Nat.le_of_lt (Nat.lt_of_le_of_lt (invariant.published instant isLast) isNow)
  began := by
    rintro startedAt ⟨⟩
    exact Nat.le_refl now
  noted := by
    rintro since ⟨⟩
    rfl
  covered := fun uri => ⟨(invariant.covered uri).dueOrShown, False.elim, .inr trivial⟩

theorem Invariant.collectChanged
    (invariant : Invariant catalog system) {startedAt : Instant} {since : Option Instant}
    (isStarted : system.phase = .started startedAt since) :
    Invariant catalog
      { system with
        phase := .collected startedAt since (system.workspace.updatedSince since) } := by
  have began := invariant.began startedAt (by rw [isStarted]; rfl)
  have isLast : since = system.publisher.lastPublish :=
    invariant.noted since (by rw [isStarted]; rfl)
  have isChanged := Workspace.mem_updatedSince_iff_isDue invariant.sound since
  apply invariant.goOn
  · rintro other ⟨⟩
    exact began
  · rintro other ⟨⟩
    exact isLast
  · intro uri member
    rw [← isLast]
    exact ((isChanged uri).1 member).2
  · intro uri
    rw [← isLast]
    exact .inr (isChanged uri)

theorem Invariant.collectClosed
    (invariant : Invariant catalog system) {startedAt : Instant} {since : Option Instant}
    {changed : List Uri}
    (isCollected : system.phase = .collected startedAt since changed) :
    Invariant catalog
      { system with
        phase := .analysing startedAt changed (system.workspace.closedSince since) [] } := by
  have began := invariant.began startedAt (by rw [isCollected]; rfl)
  have isLast : since = system.publisher.lastPublish :=
    invariant.noted since (by rw [isCollected]; rfl)
  have isClosed := Workspace.mem_closedSince_iff_isDue invariant.sound since
  have covered := invariant.covered
  rw [isCollected, ← isLast] at covered
  apply invariant.goOn
  · rintro other ⟨⟩
    exact began
  · intro other isSince
    cases isSince
  · rw [← isLast]
    rintro uri (isChanged | isNowClosed | ⟨dispatch, isPrepared, -⟩)
    · exact (covered uri).mentioned isChanged
    · exact ((isClosed uri).1 isNowClosed).2
    · cases isPrepared
  · intro uri
    rcases (covered uri).accounted with isFresh | isChanged
    · exact .inl isFresh
    · right
      refine ⟨fun member => (isChanged.1 member).1, fun member => ((isClosed uri).1 member).1,
        fun dispatch isPrepared => (by cases isPrepared), ?_⟩
      rcases (covered uri).dueOrShown with isDue | isShown
      · by_cases isOpen : (system.workspace.status uri).IsOpen
        · exact .inr (.inl (isChanged.2 ⟨isOpen, isDue⟩))
        · exact .inr (.inr (.inl ((isClosed uri).2 ⟨isOpen, isDue⟩)))
      · exact .inl isShown

/-! ## Analysing -/

theorem mem_prepared_iff
    {prepared : List Dispatch} {found : Option (List Diagnostic)} {uri : Uri}
    {dispatch : Dispatch} :
    dispatch ∈ prepared ++ found.toList.map (⟨uri, ·⟩) ↔
      dispatch ∈ prepared ∨ ∃ diagnostics, found = some diagnostics ∧
        dispatch = ⟨uri, diagnostics⟩ := by
  simp [eq_comm]

/-- A pass stays right about an address when it looks at a document: either it is another address,
or what is found there is prepared for it. -/
theorem accounts_analysed
    {since : Option Instant} {startedAt : Instant} {uri other : Uri}
    {front back closed : List Uri} {prepared : List Dispatch}
    {found last : Option (List Diagnostic)} {status : Status}
    (isDiagnosed : uri = other →
      found = some (status.diagnostics catalog) ∧ status.IsOpen ∨ found = none ∧ ¬ status.IsOpen)
    (accounts : Publisher.Phase.Accounts catalog since other status last
      (.analysing startedAt (front ++ uri :: back) closed prepared)) :
    Publisher.Phase.Accounts catalog since other status last
      (.analysing startedAt (front ++ back) closed
        (prepared ++ found.toList.map (⟨uri, ·⟩))) := by
  have stillChanged := ((List.sublist_cons_self uri back).append_left front).subset
  obtain ⟨isOpen, notOpen, isRight, isTold⟩ := accounts
  refine ⟨fun member => isOpen (stillChanged member), notOpen, ?_, ?_⟩
  · intro dispatch isMember isOther
    rcases mem_prepared_iff.1 isMember with isOld | ⟨diagnostics, isFound, rfl⟩
    · exact isRight dispatch isOld isOther
    · rcases isDiagnosed isOther with ⟨isSome, -⟩ | ⟨isNone, -⟩
      · exact Option.some.inj (isFound.symm.trans isSome)
      · cases isFound.symm.trans isNone
  · rcases isTold with isShown | isChanged | isClosed | ⟨dispatch, isOld, isOther⟩
    · exact .inl isShown
    · by_cases same : uri = other
      · rcases isDiagnosed same with ⟨isSome, -⟩ | ⟨-, isNotOpen⟩
        · exact .inr (.inr (.inr ⟨_, mem_prepared_iff.2 (.inr ⟨_, isSome, rfl⟩), same⟩))
        · exact absurd (isOpen isChanged) isNotOpen
      · have isLeft : other ∈ front ++ back := by simpa [Ne.symm same] using isChanged
        exact .inr (.inl isLeft)
    · exact .inr (.inr (.inl isClosed))
    · exact .inr (.inr (.inr ⟨dispatch, mem_prepared_iff.2 (.inl isOld), isOther⟩))

/-- Looking at a document for the client changes the phase and no status. -/
theorem Invariant.analyse
    (invariant : Invariant catalog system) {startedAt : Instant} {uri : Uri}
    {front back closed : List Uri} {prepared : List Dispatch}
    (isAnalysing : system.phase = .analysing startedAt (front ++ uri :: back) closed prepared) :
    Invariant catalog
      { system with
        workspace := (Publisher.diagnose system.workspace uri).2
        phase := .analysing startedAt (front ++ back) closed
          (prepared ++ (Publisher.diagnose system.workspace uri).1.toList.map (⟨uri, ·⟩)) } := by
  have began := invariant.began startedAt (by rw [isAnalysing]; rfl)
  have covered := invariant.covered
  rw [isAnalysing] at covered
  have isDiagnosed := Workspace.diagnose_eq invariant.sound uri
  have stillChanged := ((List.sublist_cons_self uri back).append_left front).subset
  have uriMentioned := (covered uri).mentioned (.inl (by simp))
  refine ⟨invariant.sound.diagnose uri, invariant.published, ?_, ?_, ?_⟩
  · rintro other ⟨⟩
    exact began
  · intro since isSince
    cases isSince
  · intro other
    rw [Workspace.status_diagnose invariant.sound]
    have otherCovered := covered other
    refine ⟨otherCovered.dueOrShown, ?_, ?_⟩
    · rintro (isChanged | isClosed | ⟨dispatch, isMember, rfl⟩)
      · exact otherCovered.mentioned (.inl (stillChanged isChanged))
      · exact otherCovered.mentioned (.inr (.inl isClosed))
      · rcases mem_prepared_iff.1 isMember with isOld | ⟨diagnostics, -, rfl⟩
        · exact otherCovered.mentioned (.inr (.inr ⟨dispatch, isOld, rfl⟩))
        · exact uriMentioned
    · rcases otherCovered.accounted with isFresh | accounts
      · exact .inl isFresh
      · right
        apply accounts_analysed _ accounts
        rintro rfl
        exact isDiagnosed

theorem Invariant.dispatch
    (invariant : Invariant catalog system) {startedAt : Instant} {closed : List Uri}
    {prepared : List Dispatch}
    (isAnalysed : system.phase = .analysing startedAt [] closed prepared) :
    Invariant catalog
      { system with
        phase := .delivering startedAt (prepared ++ Publisher.dispatchClosed closed) false } := by
  have began := invariant.began startedAt (by rw [isAnalysed]; rfl)
  have covered := invariant.covered
  rw [isAnalysed] at covered
  have isPending : ∀ dispatch, dispatch ∈ prepared ++ Publisher.dispatchClosed closed ↔
      dispatch ∈ prepared ∨ ∃ uri ∈ closed, dispatch = ⟨uri, []⟩ := by
    intro dispatch
    simp [Publisher.dispatchClosed, eq_comm]
  apply invariant.goOn
  · rintro other ⟨⟩
    exact began
  · intro since isSince
    cases isSince
  · rintro uri ⟨dispatch, isMember, rfl⟩
    rcases (isPending dispatch).1 isMember with isOld | ⟨uri, isClosed, rfl⟩
    · exact (covered _).mentioned (.inr (.inr ⟨dispatch, isOld, rfl⟩))
    · exact (covered uri).mentioned (.inr (.inl isClosed))
  · intro uri
    rcases (covered uri).accounted with isFresh | ⟨-, notOpen, isRight, isTold⟩
    · exact .inl isFresh
    · right
      refine ⟨?_, ?_⟩
      · intro dispatch isMember isUri
        rcases (isPending dispatch).1 isMember with isOld | ⟨other, isClosed, rfl⟩
        · exact isRight dispatch isOld isUri
        · obtain rfl : other = uri := isUri
          exact (Status.diagnostics_of_not_open (notOpen isClosed) catalog).symm
      · rcases isTold with isShown | isChanged | isClosed | ⟨dispatch, isOld, isUri⟩
        · exact .inl isShown
        · cases isChanged
        · exact .inr (.inl ⟨_, (isPending _).2 (.inr ⟨uri, isClosed, rfl⟩), rfl⟩)
        · exact .inr (.inl ⟨dispatch, (isPending _).2 (.inl isOld), isUri⟩)

/-! ## Delivering -/

theorem lastDelivered?_deliver (system : System) (dispatch : Dispatch) (phase : Publisher.Phase)
    (uri : Uri) :
    lastDelivered?
        { system with delivered := dispatch :: system.delivered, phase := phase } uri =
      if dispatch.uri = uri then some dispatch.diagnostics else system.lastDelivered? uri := by
  by_cases same : dispatch.uri = uri
  · simp [lastDelivered?, same]
  · simp [lastDelivered?, same]

theorem Invariant.deliver
    (invariant : Invariant catalog system) {startedAt : Instant} {front back : List Dispatch}
    {dispatch : Dispatch} {isRefused : Bool}
    (isPending : system.phase = .delivering startedAt (front ++ dispatch :: back) isRefused) :
    Invariant catalog
      { system with
        delivered := dispatch :: system.delivered
        phase := .delivering startedAt (front ++ back) isRefused } := by
  have began := invariant.began startedAt (by rw [isPending]; rfl)
  have covered := invariant.covered
  rw [isPending] at covered
  have stillPending := ((List.sublist_cons_self dispatch back).append_left front).subset
  refine ⟨invariant.sound, invariant.published, ?_, ?_, ?_⟩
  · rintro other ⟨⟩
    exact began
  · intro since isSince
    cases isSince
  · intro uri
    have uriCovered := covered uri
    rw [lastDelivered?_deliver]
    have mentioned : (∃ other ∈ front ++ back, other.uri = uri) →
        (system.workspace.status uri).IsDue system.publisher.lastPublish := by
      rintro ⟨other, isMember, isUri⟩
      exact uriCovered.mentioned ⟨other, stillPending isMember, isUri⟩
    by_cases same : dispatch.uri = uri
    · -- Whether or not the address has changed meanwhile, it is due for as long as the pass runs.
      have isDue := uriCovered.mentioned ⟨dispatch, by simp, same⟩
      refine ⟨.inl isDue, mentioned, ?_⟩
      rcases uriCovered.accounted with isFresh | ⟨isRight, -⟩
      · exact .inl isFresh
      · right
        refine ⟨fun other isMember => isRight other (stillPending isMember), .inl ?_⟩
        rw [if_pos same, isRight dispatch (by simp) same]
        exact Status.shown_diagnostics catalog _
    · rw [if_neg same]
      refine ⟨uriCovered.dueOrShown, mentioned, ?_⟩
      rcases uriCovered.accounted with isFresh | ⟨isRight, isTold⟩
      · exact .inl isFresh
      · right
        refine ⟨fun other isMember => isRight other (stillPending isMember), ?_⟩
        rcases isTold with isShown | ⟨other, isMember, isUri⟩ | refused
        · exact .inl isShown
        · have isOther : other ≠ dispatch := by
            rintro rfl
            exact same isUri
          have isLeft : other ∈ front ++ back := by simpa [isOther] using isMember
          exact .inr (.inl ⟨other, isLeft, isUri⟩)
        · exact .inr (.inr refused)

theorem Invariant.refuse
    (invariant : Invariant catalog system) {startedAt : Instant} {front back : List Dispatch}
    {dispatch : Dispatch} {isRefused : Bool}
    (isPending : system.phase = .delivering startedAt (front ++ dispatch :: back) isRefused) :
    Invariant catalog
      { system with phase := .delivering startedAt (front ++ back) true } := by
  have began := invariant.began startedAt (by rw [isPending]; rfl)
  have covered := invariant.covered
  rw [isPending] at covered
  have stillPending := ((List.sublist_cons_self dispatch back).append_left front).subset
  apply invariant.goOn
  · rintro other ⟨⟩
    exact began
  · intro since isSince
    cases isSince
  · rintro uri ⟨other, isMember, isUri⟩
    exact (covered uri).mentioned ⟨other, stillPending isMember, isUri⟩
  · intro uri
    rcases (covered uri).accounted with isFresh | ⟨isRight, -⟩
    · exact .inl isFresh
    · exact .inr ⟨fun other isMember => isRight other (stillPending isMember),
        .inr (.inr rfl)⟩

/-- Once everything is delivered, what is not shown has changed since the pass started. -/
theorem Invariant.commit
    (invariant : Invariant catalog system) {startedAt : Instant}
    (isDelivered : system.phase = .delivering startedAt [] false) :
    Invariant catalog
      { system with
        publisher := (system.publisher.commit startedAt system.workspace).1
        workspace := (system.publisher.commit startedAt system.workspace).2
        phase := .idle } := by
  have began := invariant.began startedAt (by rw [isDelivered]; rfl)
  have covered := invariant.covered
  rw [isDelivered] at covered
  refine ⟨invariant.sound.forgetClosed startedAt, ?_, ?_, ?_, ?_⟩
  · rintro instant ⟨⟩
    exact began
  · intro other isStart
    cases isStart
  · intro since isSince
    cases isSince
  · intro uri
    have freshOrShown : (system.workspace.status uri).IsDue (some startedAt) ∨
        (system.workspace.status uri).Shown catalog (system.lastDelivered? uri) := by
      rcases (covered uri).accounted with ⟨other, isStart, isFresh⟩ | ⟨-, isTold⟩
      · cases isStart
        exact .inl isFresh
      · rcases isTold with isShown | ⟨dispatch, isMember, -⟩ | isRefused
        · exact .inr isShown
        · cases isMember
        · cases isRefused
    refine ⟨?_, False.elim, .inr trivial⟩
    rcases Workspace.status_forgetClosed invariant.sound startedAt uri with
      same | ⟨closedAt, isBefore, isClosed, isForgotten⟩
    · rw [Publisher.commit, same]
      exact freshOrShown
    · right
      rw [Publisher.commit, isForgotten]
      rw [isClosed] at freshOrShown
      rcases freshOrShown with ⟨instant, isSince, isAfter⟩ | isShown
      · obtain rfl := Option.some.inj isSince
        have isLater : startedAt < closedAt := by simpa [Workspace.isLater] using isAfter
        exact absurd isLater (Nat.not_lt_of_le isBefore)
      · exact isShown

/-! ## Reachable systems -/

theorem Invariant.step
    (invariant : Invariant catalog system) {later : System}
    (step : Step system later) :
    Invariant catalog later := by
  cases step with
  | update uri content isLater => exact invariant.update uri content isLater
  | close uri isLater => exact invariant.close uri isLater
  | start isIdle isLater => exact invariant.start isLater
  | collectChanged isStarted => exact invariant.collectChanged isStarted
  | collectClosed isCollected =>
    split
    · exact invariant.abandon
    · exact invariant.collectClosed isCollected
  | analyse isAnalysing => exact invariant.analyse isAnalysing
  | dispatch isAnalysed => exact invariant.dispatch isAnalysed
  | deliver isPending => exact invariant.deliver isPending
  | refuse isPending => exact invariant.refuse isPending
  | commit isDelivered => exact invariant.commit isDelivered
  | abandon => exact invariant.abandon

theorem Reachable.invariant
    (reached : Reachable catalog system) :
    Invariant catalog system := by
  obtain ⟨interval, clock, steps⟩ := reached
  induction steps with
  | refl => exact invariant_initial catalog interval clock
  | tail _ step inductionHypothesis => exact inductionHypothesis.step step

/-- Of every address, the next pass will tell the client, or the client knows. This holds at all
times, also while a pass is made. -/
theorem collected_or_delivered
    (catalog : Catalog) (system : System)
    (reached : Reachable catalog system) :
    (∀ uri entry, system.workspace.find? uri = some entry →
        Workspace.isLater system.publisher.lastPublish entry.updatedAt = true ∧
            uri ∈ system.workspace.updatedSince system.publisher.lastPublish ∨
          system.lastDelivered? uri =
            some (Analysis.run catalog entry.document.text none).diagnostics) ∧
      ∀ uri diagnostics, system.workspace.find? uri = none →
        system.lastDelivered? uri = some diagnostics →
        (∃ closedAt, system.workspace.closed.lookup uri = some closedAt ∧
            Workspace.isLater system.publisher.lastPublish closedAt = true ∧
            uri ∈ system.workspace.closedSince system.publisher.lastPublish) ∨
          diagnostics = [] := by
  have invariant := reached.invariant
  constructor
  · intro uri entry isOpen
    have isStatus := Workspace.status_of_find? isOpen
    have dueOrShown := (invariant.covered uri).dueOrShown
    rcases dueOrShown with isDue | isShown
    · left
      refine ⟨?_, ?_⟩
      · obtain ⟨instant, isSince, isAfter⟩ := isDue
        rw [isStatus] at isSince
        rwa [← Option.some.inj isSince] at isAfter
      · rw [Workspace.mem_updatedSince_iff_isDue invariant.sound]
        refine ⟨?_, isDue⟩
        rw [isStatus]
        trivial
    · right
      rw [isStatus] at isShown
      exact isShown
  · intro uri diagnostics notOpen isLast
    have dueOrShown := (invariant.covered uri).dueOrShown
    cases isClosed : system.workspace.closed.lookup uri with
    | none =>
      have isStatus : system.workspace.status uri = .unknown := by
        simp only [Workspace.status, notOpen, isClosed]
      rw [isStatus] at dueOrShown
      rcases dueOrShown with ⟨instant, isSince, -⟩ | isShown
      · cases isSince
      · exact .inr (isShown diagnostics isLast)
    | some closedAt =>
      have isStatus := Workspace.status_of_closed notOpen isClosed
      rcases dueOrShown with isDue | isShown
      · left
        refine ⟨closedAt, rfl, ?_, ?_⟩
        · obtain ⟨instant, isSince, isAfter⟩ := isDue
          rw [isStatus] at isSince
          rwa [← Option.some.inj isSince] at isAfter
        · rw [Workspace.mem_closedSince_iff_isDue invariant.sound]
          refine ⟨?_, isDue⟩
          rw [isStatus]
          exact id
      · right
        rw [isStatus] at isShown
        exact isShown diagnostics isLast

/-- A document that is opened and published, and then closed. -/
def closedAfterPass : System :=
  let opened := (initial .empty 500 0).workspace.update 1 ⟨"file:///a"⟩ "part a;"
  let pass := Publisher.pass (fun _ => .accepted) 2 { interval := 500 } opened
  { workspace := pass.workspace.close 3 ⟨"file:///a"⟩
    publisher := pass.publisher
    clock := 3
    delivered := pass.delivered.reverse }

theorem reachable_closedAfterPass : Reachable .empty closedAfterPass := by
  have opened : Steps (initial .empty 500 0) _ :=
    .tail (.refl _) (.update ⟨"file:///a"⟩ "part a;" (show (0 : Instant) < 1 by decide))
  have published := opened.trans
    (steps_pass _ (fun _ => .accepted) rfl rfl (show (1 : Instant) < 2 by decide))
  exact ⟨500, 0, .tail published (.close ⟨"file:///a"⟩ (show (2 : Instant) < 3 by decide))⟩

/-- The client still shows the diagnostics of the document, and the next pass will clear them. -/
theorem collected_after_close :
    Reachable .empty closedAfterPass ∧
      closedAfterPass.workspace.find? ⟨"file:///a"⟩ = none ∧
      (closedAfterPass.lastDelivered? ⟨"file:///a"⟩).map List.length = some 1 ∧
      ⟨"file:///a"⟩ ∈ closedAfterPass.workspace.closedSince
        closedAfterPass.publisher.lastPublish := by
  have notOpen : closedAfterPass.workspace.find? ⟨"file:///a"⟩ = none := by
    rw [← Option.isNone_iff_eq_none]
    decide +kernel
  have isLast : (closedAfterPass.lastDelivered? ⟨"file:///a"⟩).map List.length = some 1 := by
    decide +kernel
  refine ⟨reachable_closedAfterPass, notOpen, isLast, ?_⟩
  obtain ⟨diagnostics, isShown, isLength⟩ := Option.map_eq_some_iff.1 isLast
  rcases (collected_or_delivered .empty closedAfterPass reachable_closedAfterPass).2
      ⟨"file:///a"⟩ diagnostics notOpen isShown with ⟨closedAt, -, -, isCollected⟩ | isEmpty
  · exact isCollected
  · rw [isEmpty] at isLength
    cases isLength

end System

end ConceptScript
