import ConceptScript.Document
import Mathlib.Data.List.Dedup

/-!
Contract: what a document remembers, told from what has happened to it.

A remembered analysis is that of the first position asked for among those that stand for the same
offset. What a document has been asked counts from the latest text on, and only once the catalog is
known. One step of the argument is one question: it finds what the first such position left behind
or leaves its own analysis behind, and nothing else changes.

Owns sessions with one document, and the answers and the size of the cache after any of them.

Does not own what an analysis says about a position.
-/

set_option autoImplicit false

namespace ConceptScript.Document

/-! ## Questions about one text -/

/-- What the analysis of a text is remembered under. -/
def Key.of (text : Text) : Option Position → Key
  | some position => .offset (text.offsetOf position)
  | none => .whole

theorem keyOf_eq (document : Document) (position : Option Position) :
    document.keyOf position = .of document.text position := by
  cases position <;> rfl

theorem analyse_of_cached
    {document : Document} {position : Option Position} {analysis : Analysis} (context : Context)
    (isCached : document.cached? (.of document.text position) = some analysis) :
    document.analyse context position = (analysis, document) := by
  simp [Document.analyse, keyOf_eq, isCached]

theorem analyse_of_not_cached
    {document : Document} {position : Option Position} {context : Context} {catalog : Catalog}
    (isNew : document.cached? (.of document.text position) = none)
    (isInstalled : context.catalog = some catalog) :
    document.analyse context position =
      (.run catalog document.text position,
        { document with
          cache := (.of document.text position, .run catalog document.text position) ::
            document.cache }) := by
  simp [Document.analyse, keyOf_eq, isNew, isInstalled]

theorem text_analyse (context : Context) (document : Document) (position : Option Position) :
    (document.analyse context position).2.text = document.text := by
  unfold Document.analyse
  dsimp only
  split <;> rfl

/-- What is analysed where something is asked: the first thing asked under the same key. -/
def earliest (text : Text) (asked : List (Option Position)) (position : Option Position) :
    Option Position :=
  (asked.find? fun earlier => Key.of text earlier = Key.of text position).getD position

/-- The first position asked for that stands for the same offset, or the position itself. -/
def firstAsked (text : Text) (asked : List (Option Position)) (position : Position) : Position :=
  ((asked.filterMap id).find? fun earlier =>
    text.offsetOf earlier = text.offsetOf position).getD position

theorem earliest_some (text : Text) (asked : List (Option Position)) (position : Position) :
    earliest text asked (some position) = some (firstAsked text asked position) := by
  unfold earliest firstAsked
  induction asked with
  | nil => rfl
  | cons earlier asked inductionHypothesis =>
    cases earlier with
    | none => simpa [Key.of, List.find?_cons] using inductionHypothesis
    | some earlier =>
      by_cases sameOffset : text.offsetOf earlier = text.offsetOf position
      · simp [Key.of, sameOffset]
      · simpa [Key.of, sameOffset] using inductionHypothesis

/-- The analyses of the current text are those of what has been asked, in this order. -/
structure Remembers
    (catalog : Catalog) (asked : List (Option Position)) (document : Document) : Prop where
  cached : ∀ key, document.cached? key =
    (asked.find? fun position => Key.of document.text position = key).map
      (Analysis.run catalog document.text)
  distinct : (document.cache.map Prod.fst).Nodup

theorem remembers_nothing
    (catalog : Catalog) {document : Document}
    (isEmpty : document.cache = []) :
    Remembers catalog [] document := by
  refine ⟨?_, ?_⟩
  · intro key
    simp [cached?, isEmpty]
  · simp [isEmpty]

theorem mem_keys_iff (document : Document) (key : Key) :
    key ∈ document.cache.map Prod.fst ↔ (document.cached? key).isSome = true := by
  unfold cached?
  induction document.cache with
  | nil => simp
  | cons entry entries inductionHypothesis =>
    rw [List.map_cons, List.mem_cons, List.lookup_cons, inductionHypothesis]
    by_cases isFirst : key = entry.1
    · simp [isFirst]
    · have notFirst : (key == entry.1) = false := by simpa using isFirst
      simp [isFirst, notFirst]

namespace Remembers

variable {catalog : Catalog} {asked : List (Option Position)} {document : Document}
  {context : Context}

theorem analysis_eq
    (remembers : Remembers catalog asked document)
    (isInstalled : context.catalog = some catalog) (position : Option Position) :
    (document.analyse context position).1 =
      .run catalog document.text (earliest document.text asked position) := by
  have isCached := remembers.cached (.of document.text position)
  unfold earliest
  cases isFound : asked.find? fun earlier =>
      Key.of document.text earlier = Key.of document.text position with
  | none =>
    rw [isFound] at isCached
    rw [analyse_of_not_cached isCached isInstalled]
    rfl
  | some earlier =>
    rw [isFound] at isCached
    rw [analyse_of_cached context isCached]
    rfl

/-- What is asked under a key that is known leaves no trace. -/
theorem append_of_cached
    {position : Option Position}
    (remembers : Remembers catalog asked document)
    (isKnown : (document.cached? (.of document.text position)).isSome = true) :
    Remembers catalog (asked ++ [position]) document := by
  refine ⟨?_, remembers.distinct⟩
  intro key
  rw [remembers.cached, List.find?_append]
  by_cases sameKey : Key.of document.text position = key
  · rw [sameKey, remembers.cached, Option.isSome_map] at isKnown
    rw [Option.or_of_isSome isKnown]
  · simp [sameKey]

theorem append_of_not_cached
    {position : Option Position}
    (remembers : Remembers catalog asked document)
    (isNew : document.cached? (.of document.text position) = none) :
    Remembers catalog (asked ++ [position])
      { document with
        cache := (.of document.text position, .run catalog document.text position) ::
          document.cache } := by
  refine ⟨?_, ?_⟩
  · intro key
    have isCached := remembers.cached key
    rw [cached?] at isCached
    show ((Key.of document.text position, _) :: document.cache).lookup key = _
    rw [List.lookup_cons, isCached, List.find?_append]
    by_cases sameKey : key = Key.of document.text position
    · rw [remembers.cached, Option.map_eq_none_iff] at isNew
      subst sameKey
      simp [isNew]
    · have otherKey : (key == Key.of document.text position) = false := by simpa using sameKey
      simp [otherKey, Ne.symm sameKey]
  · rw [List.map_cons, List.nodup_cons, mem_keys_iff, isNew]
    exact ⟨by simp, remembers.distinct⟩

theorem analyse
    (remembers : Remembers catalog asked document)
    (isInstalled : context.catalog = some catalog) (position : Option Position) :
    Remembers catalog (asked ++ [position]) (document.analyse context position).2 := by
  cases isCached : document.cached? (.of document.text position) with
  | some analysis =>
    rw [analyse_of_cached context isCached]
    exact remembers.append_of_cached (by simp [isCached])
  | none =>
    rw [analyse_of_not_cached isCached isInstalled]
    exact remembers.append_of_not_cached isCached

end Remembers

/-! ## Sessions -/

/-- What can happen to a document and to the catalog it is analysed with. -/
inductive Action where
  | update (content : String)
  | install (catalog : Catalog)
  | analyse (position : Option Position)

/-- A document and the context in which it is analysed. -/
structure Session where
  context : Context
  document : Document

namespace Session

def analyse (session : Session) (position : Option Position) : Analysis × Session :=
  let (analysis, document) := session.document.analyse session.context position
  (analysis, { session with document := document })

def step (session : Session) : Action → Session
  | .update content => { session with document := session.document.update content }
  | .install catalog => { session with context := (session.context.install catalog).2 }
  | .analyse position => (session.analyse position).2

/-- The session after all that has happened since the document was made, the latest action
first. At the start there is no catalog. -/
def after (content : String) : List Action → Session
  | [] => ⟨{}, .ofString content⟩
  | action :: earlier => (after content earlier).step action

end Session

/-! ## What has happened, the latest action first -/

/-- The first catalog that was installed. -/
def installed? : List Action → Option Catalog
  | [] => none
  | .install catalog :: earlier => (installed? earlier).or (some catalog)
  | .update _ :: earlier => installed? earlier
  | .analyse _ :: earlier => installed? earlier

/-- The text after the latest update, or the one the document was made with. -/
def textAfter (content : String) : List Action → Text
  | [] => .ofString content
  | .update latest :: _ => .ofString latest
  | .install _ :: earlier => textAfter content earlier
  | .analyse _ :: earlier => textAfter content earlier

/-- What has been asked since the latest update with a catalog installed, the first question
first. -/
def askedAfter : List Action → List (Option Position)
  | [] => []
  | .update _ :: _ => []
  | .install _ :: earlier => askedAfter earlier
  | .analyse position :: earlier =>
    if (installed? earlier).isSome then askedAfter earlier ++ [position] else askedAfter earlier

theorem askedAfter_of_not_installed
    {history : List Action}
    (notInstalled : installed? history = none) :
    askedAfter history = [] := by
  induction history with
  | nil => rfl
  | cons action earlier inductionHypothesis =>
    cases action with
    | update latest => rfl
    | install catalog => simp [installed?] at notInstalled
    | analyse position =>
      simp only [installed?] at notInstalled
      simp [askedAfter, notInstalled, inductionHypothesis notInstalled]

/-- What a session is, told from what has happened. -/
structure Session.Follows (content : String) (history : List Action) (session : Session) :
    Prop where
  catalog : session.context.catalog = installed? history
  text : session.document.text = textAfter content history
  nothing : installed? history = none → session.document.cache = []
  remembers : ∀ catalog, installed? history = some catalog →
    Remembers catalog (askedAfter history) session.document

namespace Session.Follows

variable {content : String} {history : List Action} {session : Session}

theorem update
    (follows : Follows content history session) (latest : String) :
    Follows content (.update latest :: history) (session.step (.update latest)) where
  catalog := follows.catalog
  text := rfl
  nothing := fun _ => rfl
  remembers := fun catalog _ => remembers_nothing catalog rfl

theorem install
    (follows : Follows content history session) (catalog : Catalog) :
    Follows content (.install catalog :: history) (session.step (.install catalog)) := by
  have isInstalled := follows.catalog
  cases isFirst : installed? history with
  | none =>
    rw [isFirst] at isInstalled
    have isEmpty := follows.nothing isFirst
    refine ⟨?_, follows.text, ?_, ?_⟩
    · simp [step, Context.install, isInstalled, installed?, isFirst]
    · intro notInstalled
      simp [installed?] at notInstalled
    · intro known _
      show Remembers known (askedAfter history) session.document
      rw [askedAfter_of_not_installed isFirst]
      exact remembers_nothing known isEmpty
  | some first =>
    rw [isFirst] at isInstalled
    have stays : installed? (.install catalog :: history) = some first := by
      simp [installed?, isFirst]
    refine ⟨?_, follows.text, ?_, ?_⟩
    · rw [stays]
      simp [step, Context.install, isInstalled]
    · rw [stays]
      intro notInstalled
      cases notInstalled
    · rw [stays, ← isFirst]
      exact follows.remembers

theorem analyse_of_not_installed
    (follows : Follows content history session)
    (notInstalled : installed? history = none) (position : Option Position) :
    session.analyse position = (.unavailable (textAfter content history), session) := by
  have noCatalog := follows.catalog
  rw [notInstalled] at noCatalog
  have notCached : session.document.cached? (session.document.keyOf position) = none := by
    simp [cached?, follows.nothing notInstalled]
  simp [Session.analyse, Document.analyse, notCached, noCatalog, follows.text]

theorem analyse
    (follows : Follows content history session) (position : Option Position) :
    Follows content (.analyse position :: history) (session.step (.analyse position)) := by
  cases isInstalled : installed? history with
  | none =>
    have isAsked : askedAfter (.analyse position :: history) = askedAfter history := by
      simp [askedAfter, isInstalled]
    have unchanged : session.step (.analyse position) = session := by
      simp [step, follows.analyse_of_not_installed isInstalled]
    rw [unchanged]
    refine ⟨follows.catalog, follows.text, follows.nothing, ?_⟩
    rw [isAsked]
    exact follows.remembers
  | some catalog =>
    have isAsked : askedAfter (.analyse position :: history) =
        askedAfter history ++ [position] := by
      simp [askedAfter, isInstalled]
    have isContext := follows.catalog
    rw [isInstalled] at isContext
    refine ⟨follows.catalog, ?_, ?_, ?_⟩
    · exact (text_analyse session.context session.document position).trans follows.text
    · intro notInstalled
      rw [installed?, isInstalled] at notInstalled
      cases notInstalled
    · intro known isKnown
      rw [installed?, isInstalled] at isKnown
      obtain rfl := Option.some.inj isKnown
      rw [isAsked]
      exact (follows.remembers catalog isInstalled).analyse isContext position

end Session.Follows

theorem Session.follows_after (content : String) (history : List Action) :
    Session.Follows content history (.after content history) := by
  induction history with
  | nil =>
    refine ⟨rfl, rfl, fun _ => rfl, ?_⟩
    intro catalog isInstalled
    cases isInstalled
  | cons action earlier inductionHypothesis =>
    cases action with
    | update latest => exact inductionHypothesis.update latest
    | install catalog => exact inductionHypothesis.install catalog
    | analyse position => exact inductionHypothesis.analyse position

end ConceptScript.Document
