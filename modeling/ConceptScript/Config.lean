import ConceptScript.Json.Basic
import ConceptScript.Text.Blank
import ConceptScript.Text.Count

/-!
Contract: the settings of the server.

Owns the settings with their defaults, how the environment and the options of a client set them, and
which settings cannot be used.

Does not own reading the catalog that a path leads to.
-/

set_option autoImplicit false

namespace ConceptScript

/-- What the environment says about each setting. -/
structure Environment where
  catalogPath : Option String := none
  interval : Option String := none
  deriving DecidableEq, Repr

def Environment.catalogVariable : String :=
  "CONCEPT_CATALOG"

def Environment.intervalVariable : String :=
  "CONCEPT_LSP_PUBLISH_INTERVAL_MS"

structure Config where
  /-- Where the catalog is; the built-in one is used if there is no path. -/
  catalogPath : Option String := none
  /-- Milliseconds between two passes of publishing diagnostics. -/
  interval : Nat := 300
  deriving DecidableEq, Repr

namespace Config

inductive Fault where
  | unreadableInterval (given : String) (cause : Count.Fault)
  | unreadableOptions
  | zeroInterval
  | emptyCatalogPath
  deriving DecidableEq, Repr

def Fault.message : Fault → String
  | .unreadableInterval given cause =>
    "Invalid " ++ Environment.intervalVariable ++ " value '" ++ given ++ "': " ++ cause.message
  | .unreadableOptions => "Invalid initializationOptions"
  | .zeroInterval => "publish interval must be greater than zero"
  | .emptyCatalogPath => "concept catalog path is empty"

/-- Settings that can be used. A zero interval is reported before an empty path. -/
def check (config : Config) : Except Fault Config :=
  if config.interval = 0 then .error .zeroInterval
  else if config.catalogPath = some "" then .error .emptyCatalogPath
  else .ok config

/-- Settings from the environment. A path of blanks counts as none; a path is otherwise taken as it
is, while blanks around an interval do not count. -/
def ofEnvironment (environment : Environment) : Except Fault Config := do
  let path := environment.catalogPath.filter fun path => !(Text.trimBlank path.toList).isEmpty
  match environment.interval with
  | none => check { catalogPath := path }
  | some given =>
    match Count.parse (Text.trimBlank given.toList) with
    | .error cause => .error (.unreadableInterval given cause)
    | .ok interval => check ⟨path, interval⟩

/-- The settings that a client chooses. -/
structure Options where
  catalogPath : Option String := none
  interval : Option Nat := none
  deriving DecidableEq, Repr

/-- A setting that is missing or null is not chosen. -/
def chosen? {α : Type} (decode : Json → Option α) : Option Json → Option (Option α)
  | none => some none
  | some .null => some none
  | some value => (decode value).map some

/-- Options are an object, or a list of the settings in order with the last ones left out. -/
def Options.ofJson? (options : Json) : Option Options := do
  let (path, interval) ← match options with
    | .object _ => some (options.field? "catalogPath", options.field? "publishIntervalMs")
    | .array items => if items.length ≤ 2 then some (items[0]?, items[1]?) else none
    | _ => none
  return {
    catalogPath := ← chosen? Json.string? path
    interval := ← chosen? (fun value => value.nat?.filter fun count => count < Count.limit)
      interval }

/-- Replaces the settings that a client chooses. -/
def choose (config : Config) (options : Options) : Config :=
  ⟨options.catalogPath.or config.catalogPath, options.interval.getD config.interval⟩

/-- Settings with the options of a client, where null stands for no options. -/
def merge (config : Config) (options : Json) : Except Fault Config :=
  match options with
  | .null => .ok config
  | options =>
    match Options.ofJson? options with
    | none => .error .unreadableOptions
    | some options => check (config.choose options)

/-- The settings to work with: if anything is wrong with them, all are the default ones. -/
def effective (environment : Environment) (options : Json) : Config :=
  match ofEnvironment environment with
  | .error _ => {}
  | .ok config =>
    match config.merge options with
    | .error _ => {}
    | .ok config => config

def intervalNanos (config : Config) : Nat :=
  1000000 * config.interval

end Config

end ConceptScript
