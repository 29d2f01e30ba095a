import ConceptScript.Workspace.Publisher

/-!
Contract: a workspace as a map from addresses to what is known of each document.

Owns the status of an address, the workspaces in which at most one entry speaks of an address and
every remembered analysis is that of the current text, and what each operation does to statuses.

Does not own the order in which operations come.
-/

set_option autoImplicit false

namespace ConceptScript

/-! ## Entries by address -/

section Entries

variable {β : Type}

theorem lookup_cons_eq_ite (uri other : Uri) (value : β) (entries : List (Uri × β)) :
    ((other, value) :: entries).lookup uri =
      if uri = other then some value else entries.lookup uri := by
  by_cases same : uri = other
  · simp [same]
  · have isOther : (uri == other) = false := by simpa using same
    rw [List.lookup_cons, isOther, if_neg same]

theorem lookup_eq_some_iff_mem
    {entries : List (Uri × β)}
    (distinct : (entries.map Prod.fst).Nodup) (uri : Uri) (value : β) :
    entries.lookup uri = some value ↔ (uri, value) ∈ entries := by
  induction entries with
  | nil => simp
  | cons entry entries inductionHypothesis =>
    obtain ⟨other, kept⟩ := entry
    rw [List.map_cons, List.nodup_cons] at distinct
    obtain ⟨isNew, laterDistinct⟩ := distinct
    rw [lookup_cons_eq_ite]
    by_cases same : uri = other
    · subst same
      have notLater : (uri, value) ∉ entries := by
        intro member
        exact isNew (List.mem_map.2 ⟨_, member, rfl⟩)
      simp [notLater, eq_comm]
    · simp [same, inductionHypothesis laterDistinct]

theorem lookup_filter_ne (entries : List (Uri × β)) (uri other : Uri) :
    (entries.filter fun entry => entry.1 ≠ uri).lookup other =
      if other = uri then none else entries.lookup other := by
  induction entries with
  | nil => simp
  | cons entry entries inductionHypothesis =>
    obtain ⟨key, kept⟩ := entry
    rw [List.filter_cons, lookup_cons_eq_ite]
    by_cases isRemoved : key = uri
    · subst isRemoved
      rw [if_neg (by simp), inductionHypothesis]
      by_cases same : other = key <;> simp [same]
    · rw [if_pos (by simpa using isRemoved), lookup_cons_eq_ite, inductionHypothesis]
      by_cases same : other = key
      · simp [same, isRemoved]
      · simp [same]

theorem nodup_filter
    {entries : List (Uri × β)}
    (distinct : (entries.map Prod.fst).Nodup) (kept : Uri × β → Bool) :
    ((entries.filter kept).map Prod.fst).Nodup :=
  distinct.sublist (List.filter_sublist.map Prod.fst)

end Entries

namespace Workspace

theorem lookup_put (opened : List (Uri × OpenDocument)) (uri : Uri) (entry : OpenDocument)
    (other : Uri) :
    (put uri entry opened).lookup other =
      if other = uri then some entry else opened.lookup other := by
  induction opened with
  | nil => rw [put, lookup_cons_eq_ite]
  | cons first opened inductionHypothesis =>
    obtain ⟨key, kept⟩ := first
    rw [lookup_cons_eq_ite, put]
    by_cases isPlace : key = uri
    · subst isPlace
      rw [if_pos rfl, lookup_cons_eq_ite]
      by_cases same : other = key <;> simp [same]
    · rw [if_neg isPlace, lookup_cons_eq_ite, inductionHypothesis]
      by_cases same : other = key
      · simp [same, isPlace]
      · simp [same]

theorem mem_keys_put {opened : List (Uri × OpenDocument)} {uri other : Uri} {entry : OpenDocument}
    (member : other ∈ (put uri entry opened).map Prod.fst) :
    other = uri ∨ other ∈ opened.map Prod.fst := by
  induction opened with
  | nil => simpa [put] using member
  | cons first opened inductionHypothesis =>
    obtain ⟨key, kept⟩ := first
    by_cases isPlace : key = uri
    · simpa [put, isPlace] using member
    · simp only [put, isPlace, ↓reduceIte, List.map_cons, List.mem_cons] at member ⊢
      rcases member with isFirst | isLater
      · exact .inr (.inl isFirst)
      · rcases inductionHypothesis isLater with isNew | isOld
        · exact .inl isNew
        · exact .inr (.inr isOld)

theorem nodup_put
    {opened : List (Uri × OpenDocument)}
    (distinct : (opened.map Prod.fst).Nodup) (uri : Uri) (entry : OpenDocument) :
    ((put uri entry opened).map Prod.fst).Nodup := by
  induction opened with
  | nil => simp [put]
  | cons first opened inductionHypothesis =>
    obtain ⟨key, kept⟩ := first
    rw [List.map_cons, List.nodup_cons] at distinct
    obtain ⟨isNew, laterDistinct⟩ := distinct
    by_cases isPlace : key = uri
    · subst isPlace
      simpa [put] using ⟨by simpa using isNew, laterDistinct⟩
    · simp only [put, isPlace, ↓reduceIte, List.map_cons, List.nodup_cons]
      refine ⟨?_, inductionHypothesis laterDistinct⟩
      intro member
      rcases mem_keys_put member with isUri | isLater
      · exact isPlace isUri
      · exact isNew isLater

end Workspace

/-! ## Statuses -/

/-- What is known of the document at an address. -/
inductive Status where
  | opened (text : Text) (updatedAt : Instant)
  | closed (closedAt : Instant)
  | unknown

/-- When the status became what it is, as far as it is still known. -/
def Status.since? : Status → Option Instant
  | .opened _ updatedAt => some updatedAt
  | .closed closedAt => some closedAt
  | .unknown => none

/-- A remembered analysis of the whole text is that of the current text. -/
def Document.Exact (catalog : Catalog) (document : Document) : Prop :=
  ∀ analysis, document.cached? .whole = some analysis →
    analysis = Analysis.run catalog document.text none

namespace Workspace

def status (workspace : Workspace) (uri : Uri) : Status :=
  match workspace.find? uri with
  | some entry => .opened entry.document.text entry.updatedAt
  | none =>
    match workspace.closed.lookup uri with
    | some closedAt => .closed closedAt
    | none => .unknown

/-- A workspace in which at most one entry speaks of an address and no analysis is outdated. -/
structure Sound (catalog : Catalog) (workspace : Workspace) : Prop where
  isInstalled : workspace.context.catalog = some catalog
  openedDistinct : (workspace.opened.map Prod.fst).Nodup
  closedDistinct : (workspace.closed.map Prod.fst).Nodup
  disjoint : ∀ uri entry, workspace.find? uri = some entry → workspace.closed.lookup uri = none
  exact : ∀ uri entry, workspace.find? uri = some entry → entry.document.Exact catalog

variable {catalog : Catalog} {workspace : Workspace}

theorem status_of_find?
    {uri : Uri} {entry : OpenDocument}
    (isOpen : workspace.find? uri = some entry) :
    workspace.status uri = .opened entry.document.text entry.updatedAt := by
  rw [status, isOpen]

theorem status_of_closed
    {uri : Uri} {closedAt : Instant}
    (notOpen : workspace.find? uri = none)
    (isClosed : workspace.closed.lookup uri = some closedAt) :
    workspace.status uri = .closed closedAt := by
  simp only [status, notOpen, isClosed]

theorem status_congr
    {other : Workspace} {uri : Uri}
    (sameOpen : other.find? uri = workspace.find? uri)
    (sameClosed : other.closed.lookup uri = workspace.closed.lookup uri) :
    other.status uri = workspace.status uri := by
  rw [status, status, sameOpen, sameClosed]

/-! ## Updates -/

theorem exists_find?_update
    (workspace : Workspace) (now : Instant) (uri : Uri) (content : String) :
    ∃ document : Document, document.text = .ofString content ∧ document.cache = [] ∧
      ∀ other, (workspace.update now uri content).find? other =
        if other = uri then some ⟨document, now⟩ else workspace.find? other := by
  unfold update
  cases workspace.document? uri with
  | some document =>
    exact ⟨document.update content, rfl, rfl, fun other => lookup_put workspace.opened uri _ other⟩
  | none =>
    exact ⟨.ofString content, rfl, rfl, fun other => lookup_put workspace.opened uri _ other⟩

theorem lookup_closed_update
    (workspace : Workspace) (now : Instant) (uri : Uri) (content : String) (other : Uri) :
    (workspace.update now uri content).closed.lookup other =
      if other = uri then none else workspace.closed.lookup other :=
  lookup_filter_ne workspace.closed uri other

theorem status_update
    (workspace : Workspace) (now : Instant) (uri : Uri) (content : String) (other : Uri) :
    (workspace.update now uri content).status other =
      if other = uri then .opened (.ofString content) now else workspace.status other := by
  obtain ⟨document, isText, -, isFound⟩ := exists_find?_update workspace now uri content
  by_cases same : other = uri
  · have isOpen := isFound other
    rw [if_pos same] at isOpen
    rw [status_of_find? isOpen, if_pos same, isText]
  · rw [if_neg same]
    apply status_congr
    · rw [isFound other, if_neg same]
    · rw [lookup_closed_update, if_neg same]

theorem Sound.update
    (sound : Sound catalog workspace) (now : Instant) (uri : Uri) (content : String) :
    Sound catalog (workspace.update now uri content) := by
  obtain ⟨document, isText, noCache, isFound⟩ := exists_find?_update workspace now uri content
  refine ⟨sound.isInstalled, nodup_put sound.openedDistinct uri _,
    nodup_filter sound.closedDistinct _, ?_, ?_⟩
  · intro other entry isOpen
    rw [lookup_closed_update]
    rw [isFound other] at isOpen
    split
    · rfl
    · next different =>
      rw [if_neg different] at isOpen
      exact sound.disjoint other entry isOpen
  · intro other entry isOpen
    rw [isFound other] at isOpen
    split at isOpen
    · obtain rfl := Option.some.inj isOpen
      intro analysis isCached
      simp [Document.cached?, noCache] at isCached
    · exact sound.exact other entry isOpen

/-! ## Closing -/

theorem close_of_not_open
    {uri : Uri}
    (notOpen : workspace.find? uri = none) (now : Instant) :
    workspace.close now uri = workspace := by
  rw [close, notOpen]

theorem find?_close
    {uri : Uri} {entry : OpenDocument}
    (isOpen : workspace.find? uri = some entry) (now : Instant) (other : Uri) :
    (workspace.close now uri).find? other =
      if other = uri then none else workspace.find? other := by
  rw [close, isOpen]
  exact lookup_filter_ne workspace.opened uri other

theorem lookup_closed_close
    {uri : Uri} {entry : OpenDocument}
    (isOpen : workspace.find? uri = some entry) (now : Instant) (other : Uri) :
    (workspace.close now uri).closed.lookup other =
      if other = uri then some now else workspace.closed.lookup other := by
  rw [close, isOpen]
  simp only [lookup_cons_eq_ite, lookup_filter_ne]
  split <;> rfl

theorem status_close
    {uri : Uri} {entry : OpenDocument}
    (isOpen : workspace.find? uri = some entry) (now : Instant) (other : Uri) :
    (workspace.close now uri).status other =
      if other = uri then .closed now else workspace.status other := by
  by_cases same : other = uri
  · rw [if_pos same]
    apply status_of_closed
    · rw [find?_close isOpen, if_pos same]
    · rw [lookup_closed_close isOpen, if_pos same]
  · rw [if_neg same]
    apply status_congr
    · rw [find?_close isOpen, if_neg same]
    · rw [lookup_closed_close isOpen, if_neg same]

theorem Sound.close
    (sound : Sound catalog workspace) (now : Instant) (uri : Uri) :
    Sound catalog (workspace.close now uri) := by
  cases isOpen : workspace.find? uri with
  | none =>
    rw [close_of_not_open isOpen]
    exact sound
  | some closing =>
    refine ⟨?_, ?_, ?_, ?_, ?_⟩
    · rw [Workspace.close, isOpen]
      exact sound.isInstalled
    · rw [Workspace.close, isOpen]
      exact nodup_filter sound.openedDistinct _
    · rw [Workspace.close, isOpen]
      refine List.nodup_cons.2 ⟨?_, nodup_filter sound.closedDistinct _⟩
      simp
    · intro other entry isFound
      rw [find?_close isOpen] at isFound
      rw [lookup_closed_close isOpen]
      split at isFound
      · cases isFound
      · next different =>
        rw [if_neg different]
        exact sound.disjoint other entry isFound
    · intro other entry isFound
      rw [find?_close isOpen] at isFound
      split at isFound
      · cases isFound
      · exact sound.exact other entry isFound

/-! ## Analysing -/

theorem analyse_whole
    {document : Document}
    (exact : document.Exact catalog) {context : Context}
    (isInstalled : context.catalog = some catalog) :
    (document.analyse context none).1 = Analysis.run catalog document.text none ∧
      (document.analyse context none).2.text = document.text ∧
      (document.analyse context none).2.Exact catalog := by
  cases isCached : document.cached? .whole with
  | some analysis =>
    have isAnalysed : document.analyse context none = (analysis, document) := by
      simp [Document.analyse, Document.keyOf, isCached]
    rw [isAnalysed]
    exact ⟨exact analysis isCached, rfl, exact⟩
  | none =>
    have isAnalysed : document.analyse context none =
        (Analysis.run catalog document.text none,
          { document with
            cache := (.whole, Analysis.run catalog document.text none) :: document.cache }) := by
      simp [Document.analyse, Document.keyOf, isCached, isInstalled]
    rw [isAnalysed]
    refine ⟨rfl, rfl, ?_⟩
    intro analysis isFound
    rw [Document.cached?, List.lookup_cons_self] at isFound
    exact (Option.some.inj isFound).symm

theorem find?_store
    {uri : Uri} {entry : OpenDocument}
    (isOpen : workspace.find? uri = some entry) (document : Document) (other : Uri) :
    (workspace.store uri document).find? other =
      if other = uri then some { entry with document := document }
      else workspace.find? other := by
  rw [store, isOpen]
  exact lookup_put workspace.opened uri _ other

theorem diagnose_of_not_open
    {uri : Uri}
    (notOpen : workspace.find? uri = none) :
    Publisher.diagnose workspace uri = (none, workspace) := by
  simp [Publisher.diagnose, ask, document?, notOpen]

theorem diagnose_of_open
    (sound : Sound catalog workspace) {uri : Uri} {entry : OpenDocument}
    (isOpen : workspace.find? uri = some entry) :
    (Publisher.diagnose workspace uri).1 =
        some (Analysis.run catalog entry.document.text none).diagnostics ∧
      ∃ document : Document, document.text = entry.document.text ∧ document.Exact catalog ∧
        (Publisher.diagnose workspace uri).2 = workspace.store uri document := by
  obtain ⟨isAnalysis, sameText, stillExact⟩ :=
    analyse_whole (sound.exact uri entry isOpen) sound.isInstalled
  refine ⟨?_, (entry.document.analyse workspace.context none).2, sameText, stillExact, ?_⟩
  · simp [Publisher.diagnose, ask, document?, isOpen, isAnalysis]
  · simp [Publisher.diagnose, ask, document?, isOpen]

theorem Sound.store
    (sound : Sound catalog workspace) {uri : Uri} {entry : OpenDocument}
    (isOpen : workspace.find? uri = some entry) {document : Document}
    (exact : document.Exact catalog) :
    Sound catalog (workspace.store uri document) := by
  have sameClosed : (workspace.store uri document).closed = workspace.closed := by
    rw [Workspace.store, isOpen]
  refine ⟨?_, ?_, ?_, ?_, ?_⟩
  · rw [Workspace.store, isOpen]
    exact sound.isInstalled
  · rw [Workspace.store, isOpen]
    exact nodup_put sound.openedDistinct uri _
  · rw [sameClosed]
    exact sound.closedDistinct
  · intro other kept isFound
    rw [sameClosed]
    rw [find?_store isOpen] at isFound
    split at isFound
    · next same =>
      rw [same]
      exact sound.disjoint uri entry isOpen
    · exact sound.disjoint other kept isFound
  · intro other kept isFound
    rw [find?_store isOpen] at isFound
    split at isFound
    · obtain rfl := Option.some.inj isFound
      exact exact
    · exact sound.exact other kept isFound

/-- Looking at a document changes no status. -/
theorem status_diagnose
    (sound : Sound catalog workspace) (uri other : Uri) :
    (Publisher.diagnose workspace uri).2.status other = workspace.status other := by
  cases isOpen : workspace.find? uri with
  | none => rw [diagnose_of_not_open isOpen]
  | some entry =>
    obtain ⟨-, document, sameText, -, isStored⟩ := diagnose_of_open sound isOpen
    rw [isStored]
    by_cases same : other = uri
    · have isFound := find?_store isOpen document other
      rw [if_pos same] at isFound
      rw [status_of_find? isFound, same, status_of_find? isOpen, sameText]
    · apply status_congr
      · rw [find?_store isOpen, if_neg same]
      · rw [store, isOpen]

theorem Sound.diagnose
    (sound : Sound catalog workspace) (uri : Uri) :
    Sound catalog (Publisher.diagnose workspace uri).2 := by
  cases isOpen : workspace.find? uri with
  | none =>
    rw [diagnose_of_not_open isOpen]
    exact sound
  | some entry =>
    obtain ⟨-, document, -, isExact, isStored⟩ := diagnose_of_open sound isOpen
    rw [isStored]
    exact sound.store isOpen isExact

/-! ## Forgetting and collecting -/

theorem lookup_closed_forgetClosed
    (sound : Sound catalog workspace) (instant : Instant) (uri : Uri) :
    (workspace.forgetClosed instant).closed.lookup uri =
      (workspace.closed.lookup uri).filter fun closedAt => instant < closedAt := by
  have keptDistinct := nodup_filter sound.closedDistinct fun mark => instant < mark.2
  apply Option.ext
  intro closedAt
  rw [forgetClosed, lookup_eq_some_iff_mem keptDistinct, List.mem_filter,
    Option.filter_eq_some_iff, lookup_eq_some_iff_mem sound.closedDistinct]

theorem Sound.forgetClosed
    (sound : Sound catalog workspace) (instant : Instant) :
    Sound catalog (workspace.forgetClosed instant) := by
  refine ⟨sound.isInstalled, sound.openedDistinct, nodup_filter sound.closedDistinct _, ?_,
    sound.exact⟩
  intro uri entry isOpen
  rw [lookup_closed_forgetClosed sound, sound.disjoint uri entry isOpen]
  rfl

/-- Only documents that were closed up to the instant are forgotten. -/
theorem status_forgetClosed
    (sound : Sound catalog workspace) (instant : Instant) (uri : Uri) :
    (workspace.forgetClosed instant).status uri = workspace.status uri ∨
      ∃ closedAt, closedAt ≤ instant ∧ workspace.status uri = .closed closedAt ∧
        (workspace.forgetClosed instant).status uri = .unknown := by
  have isMark := lookup_closed_forgetClosed sound instant uri
  have sameOpen : (workspace.forgetClosed instant).find? uri = workspace.find? uri := rfl
  cases isOpen : workspace.find? uri with
  | some entry =>
    left
    rw [status_of_find? isOpen, status_of_find? (sameOpen.trans isOpen)]
  | none =>
    cases isClosed : workspace.closed.lookup uri with
    | none =>
      left
      apply status_congr sameOpen
      rw [isMark, isClosed]
      rfl
    | some closedAt =>
      by_cases isKept : instant < closedAt
      · left
        apply status_congr sameOpen
        rw [isMark, isClosed, Option.filter_some, if_pos (by simpa using isKept)]
      · right
        refine ⟨closedAt, Nat.le_of_not_lt isKept, status_of_closed isOpen isClosed, ?_⟩
        rw [isClosed, Option.filter_some, if_neg (by simpa using isKept)] at isMark
        simp only [status, sameOpen, isOpen, isMark]

theorem mem_updatedSince_iff
    (sound : Sound catalog workspace) (since : Option Instant) (uri : Uri) :
    uri ∈ workspace.updatedSince since ↔
      ∃ text updatedAt, workspace.status uri = .opened text updatedAt ∧
        isLater since updatedAt = true := by
  constructor
  · intro member
    obtain ⟨⟨other, entry⟩, isFound, rfl⟩ := List.mem_map.1 member
    obtain ⟨isEntry, late⟩ := List.mem_filter.1 isFound
    have isOpen : workspace.find? other = some entry :=
      (lookup_eq_some_iff_mem sound.openedDistinct other entry).2 isEntry
    exact ⟨_, _, status_of_find? isOpen, late⟩
  · rintro ⟨text, updatedAt, isStatus, late⟩
    cases isOpen : workspace.find? uri with
    | none =>
      rw [status, isOpen] at isStatus
      cases isClosed : workspace.closed.lookup uri with
      | none => simp [isClosed] at isStatus
      | some closedAt => simp [isClosed] at isStatus
    | some entry =>
      obtain ⟨-, rfl⟩ := Status.opened.inj ((status_of_find? isOpen).symm.trans isStatus)
      have isEntry := (lookup_eq_some_iff_mem sound.openedDistinct uri entry).1 isOpen
      exact List.mem_map.2 ⟨(uri, entry), List.mem_filter.2 ⟨isEntry, late⟩, rfl⟩

theorem mem_closedSince_iff
    (sound : Sound catalog workspace) (since : Option Instant) (uri : Uri) :
    uri ∈ workspace.closedSince since ↔
      ∃ closedAt, workspace.status uri = .closed closedAt ∧ isLater since closedAt = true := by
  constructor
  · intro member
    obtain ⟨⟨other, closedAt⟩, isFound, rfl⟩ := List.mem_map.1 member
    obtain ⟨isMark, late⟩ := List.mem_filter.1 isFound
    have isClosed := (lookup_eq_some_iff_mem sound.closedDistinct other closedAt).2 isMark
    have notOpen : workspace.find? other = none := by
      cases isOpen : workspace.find? other with
      | none => rfl
      | some entry => simp [sound.disjoint other entry isOpen] at isClosed
    exact ⟨closedAt, status_of_closed notOpen isClosed, late⟩
  · rintro ⟨closedAt, isStatus, late⟩
    cases isOpen : workspace.find? uri with
    | some entry =>
      rw [status_of_find? isOpen] at isStatus
      cases isStatus
    | none =>
      cases isClosed : workspace.closed.lookup uri with
      | none => simp [status, isOpen, isClosed] at isStatus
      | some mark =>
        obtain rfl := Status.closed.inj ((status_of_closed isOpen isClosed).symm.trans isStatus)
        have isMark := (lookup_eq_some_iff_mem sound.closedDistinct uri mark).1 isClosed
        exact List.mem_map.2 ⟨(uri, mark), List.mem_filter.2 ⟨isMark, late⟩, rfl⟩

end Workspace

end ConceptScript
