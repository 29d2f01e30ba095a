import ConceptScript.Proofs.Editor.FreshAnswers
import ConceptScript.Proofs.Workspace.Interleaving
import ConceptScript.Server.Basic

/-!
Contract: a server is a map from addresses to texts.

What the server answers about a document can be read off the text that it was last given for that
address. That documents are shared, remember analyses and are looked at by the publisher in between
shows nowhere, as long as requests are about lines that the text has.

Owns what a server is told, the texts that are read off it, and that all answers are made of them.

Does not own what an answer says about a text.
-/

set_option autoImplicit false

namespace ConceptScript

/-! ## Workspaces that hold given texts -/

namespace Workspace

variable {contents : Uri → Option String} {workspace : Workspace}

/-- The open documents have these texts, and remember only what may be used. -/
structure Holds (contents : Uri → Option String) (workspace : Workspace) : Prop where
  text_eq : ∀ uri, (workspace.document? uri).map Document.text = (contents uri).map .ofString
  kept : ∀ uri document, workspace.document? uri = some document →
    document.Kept workspace.context

theorem exists_document?_update
    (workspace : Workspace) (now : Instant) (uri : Uri) (content : String) :
    ∃ document : Document, document.text = .ofString content ∧ document.cache = [] ∧
      ∀ other, (workspace.update now uri content).document? other =
        if other = uri then some document else workspace.document? other := by
  obtain ⟨document, isText, noCache, isFound⟩ := exists_find?_update workspace now uri content
  refine ⟨document, isText, noCache, ?_⟩
  intro other
  rw [document?, isFound other]
  split <;> rfl

theorem document?_close (workspace : Workspace) (now : Instant) (uri other : Uri) :
    (workspace.close now uri).document? other =
      if other = uri then none else workspace.document? other := by
  cases isOpen : workspace.find? uri with
  | none =>
    rw [close_of_not_open isOpen]
    split
    · next same => rw [document?, same, isOpen, Option.map_none]
    · rfl
  | some entry =>
    rw [document?, find?_close isOpen]
    split <;> rfl

theorem document?_store
    {uri : Uri} {former : Document}
    (isOpen : workspace.document? uri = some former) (document : Document) (other : Uri) :
    (workspace.store uri document).document? other =
      if other = uri then some document else workspace.document? other := by
  obtain ⟨entry, isEntry, -⟩ := Option.map_eq_some_iff.1 isOpen
  rw [document?, find?_store isEntry]
  split <;> rfl

theorem context_store (workspace : Workspace) (uri : Uri) (document : Document) :
    (workspace.store uri document).context = workspace.context := by
  unfold store
  split <;> rfl

theorem context_close (workspace : Workspace) (now : Instant) (uri : Uri) :
    (workspace.close now uri).context = workspace.context := by
  unfold close
  split <;> rfl

theorem Holds.update
    (holds : Holds contents workspace) (now : Instant) (uri : Uri) (content : String) :
    Holds (fun other => if other = uri then some content else contents other)
      (workspace.update now uri content) := by
  obtain ⟨document, isText, noCache, isFound⟩ := exists_document?_update workspace now uri content
  refine ⟨?_, ?_⟩
  · intro other
    rw [isFound other]
    split
    · rw [Option.map_some, Option.map_some, isText]
    · exact holds.text_eq other
  · intro other kept isOpen
    rw [isFound other] at isOpen
    split at isOpen
    · obtain rfl := Option.some.inj isOpen
      exact Document.kept_of_cache_eq_nil noCache
    · exact holds.kept other kept isOpen

theorem Holds.close
    (holds : Holds contents workspace) (now : Instant) (uri : Uri) :
    Holds (fun other => if other = uri then none else contents other)
      (workspace.close now uri) := by
  refine ⟨?_, ?_⟩
  · intro other
    rw [document?_close]
    split
    · rfl
    · exact holds.text_eq other
  · intro other document isOpen
    rw [document?_close] at isOpen
    rw [context_close]
    split at isOpen
    · cases isOpen
    · exact holds.kept other document isOpen

theorem catalog_install_of_installed
    {first : Catalog}
    (isInstalled : workspace.context.catalog = some first) (catalog : Catalog) :
    (workspace.install catalog).2.context.catalog = some first := by
  simp [Workspace.install, Context.install, isInstalled]

theorem Holds.install
    (holds : Holds contents workspace) (catalog : Catalog) :
    Holds contents (workspace.install catalog).2 := by
  refine ⟨holds.text_eq, ?_⟩
  intro uri document isOpen
  apply (holds.kept uri document isOpen).of_context
  intro first isInstalled
  exact catalog_install_of_installed isInstalled catalog

/-! ## Questions -/

section Ask

variable {α : Type} {question : Context → Document → α × Document} {uri : Uri}

theorem Holds.exists_content
    (holds : Holds contents workspace) {document : Document}
    (isOpen : workspace.document? uri = some document) :
    ∃ content, contents uri = some content ∧ document.text = .ofString content := by
  have isText := holds.text_eq uri
  rw [isOpen] at isText
  obtain ⟨content, isContent, sameText⟩ := Option.map_eq_some_iff.1 isText.symm
  exact ⟨content, isContent, sameText.symm⟩

/-- A question that leaves the text and the memory of a document in order. -/
theorem Holds.ask
    (holds : Holds contents workspace)
    (isHarmless : ∀ content, contents uri = some content → ∀ document : Document,
      document.text = .ofString content → document.Kept workspace.context →
        document.Harmless question workspace.context) :
    Holds contents (workspace.ask uri question).2 ∧
      (workspace.ask uri question).2.context = workspace.context := by
  unfold Workspace.ask
  cases isOpen : workspace.document? uri with
  | none => exact ⟨holds, rfl⟩
  | some document =>
    obtain ⟨content, isContent, isText⟩ := holds.exists_content isOpen
    obtain ⟨sameText, isKept⟩ :=
      isHarmless content isContent document isText (holds.kept uri document isOpen)
    refine ⟨⟨?_, ?_⟩, context_store ..⟩
    · intro other
      rw [document?_store isOpen]
      split
      · next same => rw [same, isContent, Option.map_some, Option.map_some, sameText, isText]
      · exact holds.text_eq other
    · intro other kept isFound
      rw [document?_store isOpen] at isFound
      rw [context_store]
      split at isFound
      · obtain rfl := Option.some.inj isFound
        exact isKept
      · exact holds.kept other kept isFound

theorem Holds.answer_of_fresh
    (holds : Holds contents workspace)
    (isFresh : ∀ content, contents uri = some content → ∀ document : Document,
      document.text = .ofString content → document.Kept workspace.context →
        document.Fresh question workspace.context) :
    (workspace.ask uri question).1 =
      (contents uri).map fun content => (question workspace.context (.ofString content)).1 := by
  unfold Workspace.ask
  have isText := holds.text_eq uri
  cases isOpen : workspace.document? uri with
  | none =>
    rw [isOpen] at isText
    rw [Option.map_eq_none_iff.1 isText.symm, Option.map_none]
  | some document =>
    obtain ⟨content, isContent, isText⟩ := holds.exists_content isOpen
    have fresh := isFresh content isContent document isText (holds.kept uri document isOpen)
    rw [isContent, Option.map_some, Document.ofString, ← isText]
    exact congrArg some fresh.answer

end Ask

/-! ## Passes of the publisher -/

theorem Holds.diagnose
    (holds : Holds contents workspace) (uri : Uri) :
    Holds contents (Publisher.diagnose workspace uri).2 ∧
      (Publisher.diagnose workspace uri).2.context = workspace.context := by
  apply holds.ask
  intro content _ document _ isKept
  exact ⟨Document.text_analyse .., isKept.analyse (by simp)⟩

theorem Holds.dispatchChanged
    (holds : Holds contents workspace) (changed : List Uri) :
    Holds contents (Publisher.dispatchChanged workspace changed).2 ∧
      (Publisher.dispatchChanged workspace changed).2.context = workspace.context := by
  induction changed generalizing workspace with
  | nil => exact ⟨holds, rfl⟩
  | cons uri changed inductionHypothesis =>
    obtain ⟨stillHolds, sameContext⟩ := holds.diagnose uri
    rw [System.dispatchChanged_cons, ← sameContext]
    exact inductionHypothesis stillHolds

theorem Holds.pass
    (holds : Holds contents workspace) (client : Client) (now : Instant) (publisher : Publisher) :
    Holds contents (Publisher.pass client now publisher workspace).workspace ∧
      (Publisher.pass client now publisher workspace).workspace.context = workspace.context := by
  unfold Publisher.pass
  split
  · exact ⟨holds, rfl⟩
  · next batch _ =>
    obtain ⟨stillHolds, sameContext⟩ := holds.dispatchChanged batch.changed
    dsimp only
    split
    · exact ⟨stillHolds, sameContext⟩
    · exact ⟨stillHolds, sameContext⟩
    · exact ⟨⟨stillHolds.text_eq, stillHolds.kept⟩, sameContext⟩

theorem Holds.tick
    (holds : Holds contents workspace) (client : Client) (now : Instant) (time : Nat)
    (publisher : Publisher) :
    Holds contents (Publisher.tick client now time publisher workspace).workspace ∧
      (Publisher.tick client now time publisher workspace).workspace.context =
        workspace.context := by
  unfold Publisher.tick
  split
  · exact holds.pass client now publisher
  · exact ⟨holds, rfl⟩

end Workspace

/-! ## What a server is told -/

/-- What can happen to a server. -/
inductive Server.Input where
  | call (call : Call)
  | elapsed (milliseconds : Nat)
  | catalogFound (path : String) (located : Located)

namespace Server

open Workspace (Holds)

def react (server : Server) : Input → Turn
  | .call call => server.handle call
  | .elapsed milliseconds => server.elapse milliseconds
  | .catalogFound path located => server.catalogFound path located

/-- The server after all that has happened, the latest first. -/
def after (server : Server) : List Input → Server
  | [] => server
  | input :: earlier => ((server.after earlier).react input).server

/-- The text that was last given for an address since it was last closed. -/
def content? (uri : Uri) : List Input → Option String
  | [] => none
  | .call (.documentOpened other content) :: earlier =>
    if uri = other then some content else content? uri earlier
  | .call (.documentChanged other contents) :: earlier =>
    if uri = other then contents.getLast?.or (content? uri earlier) else content? uri earlier
  | .call (.documentClosed other) :: earlier => if uri = other then none else content? uri earlier
  | _ :: earlier => content? uri earlier

/-- The place that a request is about. -/
def place? : Call → Option (Uri × Position)
  | .completion uri position | .hover uri position | .signatureHelp uri position =>
    some (uri, position)
  | _ => none

/-- A request about an open document is about a line of its text. -/
def OnLine (history : List Input) (call : Call) : Prop :=
  ∀ place ∈ place? call, ∀ content ∈ content? place.1 history,
    place.2.line ≤ (Text.ofString content).lastLine

instance (history : List Input) (call : Call) : Decidable (OnLine history call) :=
  inferInstanceAs (Decidable (∀ place ∈ place? call, ∀ content ∈ content? place.1 history,
    place.2.line ≤ (Text.ofString content).lastLine))

/-- All requests are about lines that the texts have at that time. -/
def OnLines : List Input → Prop
  | [] => True
  | .call call :: earlier => OnLine earlier call ∧ OnLines earlier
  | .elapsed _ :: earlier | .catalogFound _ _ :: earlier => OnLines earlier

instance decidableOnLines : (history : List Input) → Decidable (OnLines history)
  | [] => .isTrue trivial
  | .call call :: earlier =>
    have := decidableOnLines earlier
    inferInstanceAs (Decidable (OnLine earlier call ∧ OnLines earlier))
  | .elapsed _ :: earlier | .catalogFound _ _ :: earlier => decidableOnLines earlier

/-- What is to be answered, where requests about documents are answered by documents that hold the
text and were never asked before. -/
def answer? (context : Context) (history : List Input) : Call → Option Answer
  | .connect _ => some .capabilities
  | .shutdown => some .done
  | .completion uri position =>
    some (.completions ((content? uri history).map fun content =>
      ((Document.ofString content).completionsAt context position).1))
  | .hover uri position =>
    some (.hover ((content? uri history).bind fun content =>
      ((Document.ofString content).hoverAt? context position).1))
  | .signatureHelp uri position =>
    some (.signatureHelp ((content? uri history).bind fun content =>
      ((Document.ofString content).signatureHelpAt? context position).1))
  | _ => none

/-! ## Servers follow what they are told -/

section Follows

variable {server : Server} {history : List Input}

/-- The documents of a server have the texts that are read off its history. -/
def Follows (history : List Input) (server : Server) : Prop :=
  Holds (fun uri => content? uri history) server.workspace

/-- A catalog that is there is never replaced. -/
def KeepsCatalog (server later : Server) : Prop :=
  ∀ catalog, server.workspace.context.catalog = some catalog →
    later.workspace.context.catalog = some catalog

theorem keepsCatalog_of_context_eq
    {later : Server}
    (sameContext : later.workspace.context = server.workspace.context) :
    KeepsCatalog server later := by
  intro catalog isInstalled
  rw [sameContext]
  exact isInstalled

theorem keepsCatalog_install (server : Server) (catalog : Catalog) :
    KeepsCatalog server (server.install catalog) := by
  intro first isInstalled
  exact Workspace.catalog_install_of_installed isInstalled catalog

theorem Follows.change
    (follows : Follows history server) (uri : Uri) (contents : List String) :
    Follows (.call (.documentChanged uri contents) :: history) (server.change uri contents) := by
  unfold Server.change
  cases isLast : contents.getLast? with
  | some content =>
    have updated := Holds.update follows server.now uri content
    simpa [Follows, content?, isLast, Server.update] using updated
  | none =>
    simpa [Follows, content?, isLast] using follows

/-! ## Requests -/

section Requests

variable {uri : Uri} {position : Position} {context : Context}

/-- Whatever document holds the text of an address, its answer is fresh. -/
def AnsweredFresh {α : Type} (history : List Input) (uri : Uri) (context : Context)
    (question : Context → Document → α × Document) : Prop :=
  ∀ content, content? uri history = some content → ∀ document : Document,
    document.text = .ofString content → document.Kept context → document.Fresh question context

theorem answeredFresh_of_onLine
    {α : Type} {question : Context → Document → α × Document} {call : Call}
    (onLine : OnLine history call)
    (isPlace : place? call = some (uri, position))
    (isFresh : ∀ document : Document, document.Kept context →
      position.line ≤ document.text.lastLine → document.Fresh question context) :
    AnsweredFresh history uri context question := by
  intro content isContent document isText kept
  have isLine := onLine (uri, position) isPlace content isContent
  rw [← isText] at isLine
  exact isFresh document kept isLine

theorem answeredFresh_completion
    (onLine : OnLine history (.completion uri position)) :
    AnsweredFresh history uri context fun context document =>
      document.completionsAt context position :=
  answeredFresh_of_onLine onLine rfl fun _ kept isOnLine => kept.fresh_completionsAt isOnLine

theorem answeredFresh_hover
    (onLine : OnLine history (.hover uri position)) :
    AnsweredFresh history uri context fun context document =>
      document.hoverAt? context position :=
  answeredFresh_of_onLine onLine rfl fun _ kept isOnLine => kept.fresh_hoverAt? isOnLine

theorem answeredFresh_signatureHelp
    (onLine : OnLine history (.signatureHelp uri position)) :
    AnsweredFresh history uri context fun context document =>
      document.signatureHelpAt? context position :=
  answeredFresh_of_onLine onLine rfl fun _ kept isOnLine => kept.fresh_signatureHelpAt? isOnLine

theorem Follows.ask
    {α : Type} {question : Context → Document → α × Document}
    (follows : Follows history server)
    (isFresh : AnsweredFresh history uri server.workspace.context question) :
    Follows history (server.ask uri question).2 ∧
      KeepsCatalog server (server.ask uri question).2 := by
  have isHarmless := fun content isContent document isText kept =>
    (isFresh content isContent document isText kept).toHarmless
  obtain ⟨stillHolds, sameContext⟩ := Holds.ask follows isHarmless
  exact ⟨stillHolds, keepsCatalog_of_context_eq sameContext⟩

end Requests

theorem Follows.handle
    (follows : Follows history server) {call : Call}
    (onLine : OnLine history call) :
    Follows (.call call :: history) (server.handle call).server ∧
      KeepsCatalog server (server.handle call).server := by
  have unchanged : KeepsCatalog server server := fun _ isInstalled => isInstalled
  let counted : Server := { server with now := server.now + 1 }
  have countedFollows : Follows history counted := follows
  cases call with
  | connect options =>
    unfold Server.handle Server.connect
    dsimp only
    split
    · exact ⟨Holds.install follows .builtIn, keepsCatalog_install _ _⟩
    · exact ⟨follows, unchanged⟩
  | connected => exact ⟨follows, unchanged⟩
  | shutdown => exact ⟨follows, unchanged⟩
  | other => exact ⟨follows, unchanged⟩
  | documentOpened uri content => exact ⟨Holds.update follows _ uri content, unchanged⟩
  | documentChanged uri contents =>
    refine ⟨countedFollows.change uri contents, keepsCatalog_of_context_eq ?_⟩
    show (counted.change uri contents).workspace.context = _
    unfold Server.change
    split <;> rfl
  | documentClosed uri =>
    exact ⟨Holds.close follows _ uri, keepsCatalog_of_context_eq (Workspace.context_close ..)⟩
  | completion uri position => exact countedFollows.ask (answeredFresh_completion onLine)
  | hover uri position => exact countedFollows.ask (answeredFresh_hover onLine)
  | signatureHelp uri position => exact countedFollows.ask (answeredFresh_signatureHelp onLine)

theorem Follows.elapse
    (follows : Follows history server) (milliseconds : Nat) :
    Follows (.elapsed milliseconds :: history) (server.elapse milliseconds).server ∧
      KeepsCatalog server (server.elapse milliseconds).server := by
  unfold Server.elapse
  dsimp only
  split
  · exact ⟨follows, fun _ isInstalled => isInstalled⟩
  · next publisher _ =>
    obtain ⟨stillHolds, sameContext⟩ := Holds.tick follows (fun _ => .accepted) (server.now + 1)
      (server.time + milliseconds) publisher
    exact ⟨stillHolds, keepsCatalog_of_context_eq sameContext⟩

theorem Follows.catalogFound
    (follows : Follows history server) (path : String) (located : Located) :
    Follows (.catalogFound path located :: history) (server.catalogFound path located).server ∧
      KeepsCatalog server (server.catalogFound path located).server := by
  unfold Server.catalogFound
  split
  · exact ⟨Holds.install follows _, keepsCatalog_install _ _⟩
  · exact ⟨Holds.install follows .builtIn, keepsCatalog_install _ _⟩

/-- A server without documents, whatever it is then told. -/
theorem follows_after
    (noDocument : server.workspace.opened = [])
    (onLines : OnLines history) :
    Follows history (server.after history) ∧ KeepsCatalog server (server.after history) := by
  induction history with
  | nil =>
    refine ⟨⟨?_, ?_⟩, fun _ isInstalled => isInstalled⟩
    · intro uri
      simp [Server.after, Workspace.document?, Workspace.find?, noDocument, content?]
    · intro uri document isOpen
      simp [Server.after, Workspace.document?, Workspace.find?, noDocument] at isOpen
  | cons input history inductionHypothesis =>
    have goesOn
        (earlier : OnLines history)
        (step : Follows history (server.after history) →
          Follows (input :: history) ((server.after history).react input).server ∧
            KeepsCatalog (server.after history) ((server.after history).react input).server) :
        Follows (input :: history) (server.after (input :: history)) ∧
          KeepsCatalog server (server.after (input :: history)) := by
      obtain ⟨follows, keeps⟩ := inductionHypothesis earlier
      obtain ⟨stillFollows, stillKeeps⟩ := step follows
      exact ⟨stillFollows, fun catalog isInstalled => stillKeeps catalog (keeps catalog isInstalled)⟩
    cases input with
    | call call => exact goesOn onLines.2 fun follows => follows.handle onLines.1
    | elapsed milliseconds => exact goesOn onLines fun follows => follows.elapse milliseconds
    | catalogFound path located =>
      exact goesOn onLines fun follows => follows.catalogFound path located

/-! ## Answers -/

theorem Follows.answer_ask
    {α : Type} {question : Context → Document → α × Document} {uri : Uri}
    (follows : Follows history server)
    (isFresh : AnsweredFresh history uri server.workspace.context question) :
    (server.ask uri question).1 =
      (content? uri history).map fun content =>
        (question server.workspace.context (.ofString content)).1 :=
  Holds.answer_of_fresh follows isFresh

theorem Follows.join_answer_ask
    {α : Type} {question : Context → Document → Option α × Document} {uri : Uri}
    (follows : Follows history server)
    (isFresh : AnsweredFresh history uri server.workspace.context question) :
    (server.ask uri question).1.join =
      (content? uri history).bind fun content =>
        (question server.workspace.context (.ofString content)).1 := by
  rw [follows.answer_ask isFresh, ← Option.bind_id_eq_join, Option.bind_map]
  rfl

theorem Follows.answer_handle
    (follows : Follows history server) {call : Call}
    (onLine : OnLine history call) :
    (server.handle call).answer = answer? server.workspace.context history call := by
  let counted : Server := { server with now := server.now + 1 }
  have countedFollows : Follows history counted := follows
  cases call with
  | connect options =>
    unfold Server.handle Server.connect
    dsimp only
    split <;> rfl
  | connected | shutdown | other | documentOpened | documentChanged | documentClosed => rfl
  | completion uri position =>
    have isAnswer := countedFollows.answer_ask (answeredFresh_completion onLine)
    exact congrArg (fun items => some (Answer.completions items)) isAnswer
  | hover uri position =>
    have isAnswer := countedFollows.join_answer_ask (answeredFresh_hover onLine)
    exact congrArg (fun found => some (Answer.hover found)) isAnswer
  | signatureHelp uri position =>
    have isAnswer := countedFollows.join_answer_ask (answeredFresh_signatureHelp onLine)
    exact congrArg (fun help => some (Answer.signatureHelp help)) isAnswer

end Follows

/-- Whatever a server was told since it had no documents, each answer is that of a fresh document
with the text that was last given for the address, or nothing where there is none. A catalog that
was there at the start is the one that is answered with. -/
theorem answer_handle_after
    {server : Server} {history : List Input} {call : Call}
    (noDocument : server.workspace.opened = [])
    (onLines : OnLines (.call call :: history)) :
    let reached := server.after history
    (reached.handle call).answer = answer? reached.workspace.context history call ∧
      ∀ catalog, server.workspace.context.catalog = some catalog →
        reached.workspace.context = ⟨some catalog⟩ := by
  intro reached
  obtain ⟨follows, keeps⟩ := follows_after noDocument onLines.2
  refine ⟨follows.answer_handle onLines.1, ?_⟩
  intro catalog isInstalled
  exact congrArg Context.mk (keeps catalog isInstalled)

/-- A document is closed and opened again by a change, with another one beside it. The two columns
are both past the end of the line, so that the second request finds what the first left behind. -/
def reopened : List Input :=
  [.call (.completion ⟨"file:///a"⟩ ⟨1, 7⟩),
    .call (.documentChanged ⟨"file:///a"⟩ []),
    .call (.documentChanged ⟨"file:///a"⟩ ["alpha;", "// c\nal"]),
    .call (.documentClosed ⟨"file:///a"⟩),
    .call (.documentOpened ⟨"file:///b"⟩ "alpha"),
    .call (.documentOpened ⟨"file:///a"⟩ "alpha")]

theorem answer_after_reopening :
    let server : Server := { workspace := { context := ⟨some Document.plainAlpha⟩ } }
    let call : Call := .completion ⟨"file:///a"⟩ ⟨1, 9⟩
    server.workspace.opened = [] ∧ OnLines (.call call :: reopened) ∧
      ((server.after reopened).handle call).answer =
        some (.completions (some [⟨"alpha", some "alpha"⟩])) := by
  intro server call
  have onLines : OnLines (.call call :: reopened) := by decide +kernel
  have noDocument : server.workspace.opened = [] := rfl
  obtain ⟨isAnswer, keeps⟩ := answer_handle_after noDocument onLines
  have offered : (content? ⟨"file:///a"⟩ reopened).map (fun content =>
      ((Document.ofString content).completionsAt ⟨some Document.plainAlpha⟩ ⟨1, 9⟩).1) =
        some [⟨"alpha", some "alpha"⟩] := by
    decide +kernel
  refine ⟨noDocument, onLines, ?_⟩
  rw [isAnswer, keeps Document.plainAlpha rfl]
  exact congrArg (fun items => some (Answer.completions items)) offered

end Server

end ConceptScript
