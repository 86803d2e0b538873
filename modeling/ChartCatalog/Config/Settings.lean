import ChartCatalog.Toml.Document
import ChartCatalog.Config.Duration
import ChartCatalog.Catalog.Model
import ChartCatalog.Text.Blank

/-!
# Settings

The configuration file is TOML with five sections, each optional and each field with a
default:

* `[sync]`: `workers` (10), `interval` (`"10m"`), `allow_empty_index` (false);
* `[http]`: `timeout` (`"30s"`), `ca_file`, `user_agent_comment`, `max_body_size`
  (64 MiB);
* `[storage]`: `backend`, `sqlite` (the default) or `document`, and `path`
  (`/var/lib/chartsync/catalog.db`);
* `[cache]`: `max_workers` (10);
* `[repos.<name>]`: `url` (required), `namespace` (`default`), and either `bearer_token`
  or `auth_header`.

Keys the settings do not know are ignored. Counts are non-negative integers, texts are
strings, flags are booleans; any other type, or a file that is not TOML, is unreadable.
A section may also be written as an array that gives its fields by position, in the
order listed above; fields past the array's end take their defaults.

Checking readable settings stops at the first fault, in this order: zero workers, zero
cache workers, a zero body size, an interval or timeout that is not a duration, then per
repository in name order a blank URL or both kinds of credentials. A duration whose
seconds overflow 64 bits is an arithmetic failure rather than a fault of the settings.
-/

set_option autoImplicit false

namespace ChartCatalog

/-- The `[sync]` section. -/
structure SyncSection where
  workers : Nat
  interval : String
  allowEmptyIndex : Bool
  deriving DecidableEq, Repr, Inhabited

/-- The `[http]` section. -/
structure HttpSection where
  timeout : String
  caFile : Option String
  userAgentComment : Option String
  maxBodySize : Nat
  deriving DecidableEq, Repr, Inhabited

/-- The `[http]` section when the file has none: a 30-second timeout, no CA bundle, no
comment, and bodies of up to 64 MiB. -/
def HttpSection.standard : HttpSection := ⟨"30s", none, none, 64 * 1024 * 1024⟩

/-- The catalog store a configuration selects. -/
inductive StorageBackend where
  | sqlite
  | document
  deriving DecidableEq, Repr, Inhabited

/-- The name of a backend, as the configuration writes it. -/
def StorageBackend.name : StorageBackend → String
  | .sqlite => "sqlite"
  | .document => "document"

/-- The `[storage]` section. -/
structure StorageSection where
  backend : StorageBackend
  path : String
  deriving DecidableEq, Repr, Inhabited

/-- The `[cache]` section. -/
structure CacheSection where
  maxWorkers : Nat
  deriving DecidableEq, Repr, Inhabited

/-- One `[repos.<name>]` section. -/
structure RepoSection where
  url : String
  ns : String
  bearerToken : Option String
  authHeader : Option String
  deriving DecidableEq, Repr, Inhabited

/-- A whole configuration. -/
structure Settings where
  sync : SyncSection
  http : HttpSection
  storage : StorageSection
  cache : CacheSection
  /-- The repositories by name, in increasing name order. -/
  repos : List (String × RepoSection)
  deriving Repr, Inhabited

/-- Why readable settings are refused. -/
inductive SettingsFault where
  /-- A rule of the settings is broken. -/
  | invalid (message : String)
  /-- A duration field does not read as a duration. -/
  | badDuration (field : String) (cause : DurationError)
  deriving DecidableEq, Repr

/-- The fault's own message, without its cause. -/
def SettingsFault.message : SettingsFault → String
  | .invalid m => m
  | .badDuration field _ => "Invalid " ++ field

/-- The fault's message followed by its causes, each after `: `. -/
def SettingsFault.fullMessage : SettingsFault → String
  | .invalid m => m
  | .badDuration field cause => "Invalid " ++ field ++ ": " ++ cause.message

/-- Whether a fault is an arithmetic overflow of a duration. -/
def SettingsFault.isOverflow : SettingsFault → Bool
  | .badDuration _ .overflow => true
  | _ => false

namespace Settings

open Toml

/-! ## Reading -/

/-- A field of a section: its default when absent, or its value read. A section written
as a table names its fields; one written as an array gives them by position, in the order
the section lists them. -/
def field {α : Type} (part : Value) (key : String) (index : Nat) (read : Value → Option α)
    (default : α) : Option α :=
  let found := match part with
    | .array items => items[index]?
    | v => v.get? key
  match found with
  | some v => read v
  | none => some default

/-- A count: a non-negative integer. -/
def count : Value → Option Nat
  | .integer n => if 0 ≤ n then some n.toNat else none
  | _ => none

/-- A text. -/
def text : Value → Option String
  | .string s => some s
  | _ => none

/-- A flag. -/
def flag : Value → Option Bool
  | .boolean b => some b
  | _ => none

/-- A section: a table or an array, or an empty table when absent. -/
def part (root : Value) (key : String) : Option Value :=
  match root.get? key with
  | some (.table entries) => some (.table entries)
  | some (.array items) => some (.array items)
  | some _ => none
  | none => some (.table [])

/-- Reads a backend name. -/
def backend : Value → Option StorageBackend
  | .string "sqlite" => some .sqlite
  | .string "document" => some .document
  | _ => none

/-- Reads one repository section; its URL has no default. -/
def repoSection (v : Value) : Option RepoSection := do
  let url ← match v with
    | .table _ => v.get? "url" >>= text
    | .array (first :: _) => text first
    | _ => none
  pure ⟨url, ← field v "namespace" 1 text "default",
    ← field v "bearer_token" 2 (some <$> text ·) none,
    ← field v "auth_header" 3 (some <$> text ·) none⟩

/-- Settings from a TOML document's root table. -/
def ofToml (root : Value) : Option Settings := do
  let s ← part root "sync"
  let h ← part root "http"
  let st ← part root "storage"
  let c ← part root "cache"
  let repos ← match root.get? "repos" with
    | some (.table entries) => entries.mapM fun (name, v) => (repoSection v).map (name, ·)
    | some _ => none
    | none => some []
  pure {
    sync := ⟨← field s "workers" 0 count 10, ← field s "interval" 1 text "10m",
      ← field s "allow_empty_index" 2 flag false⟩
    http := ⟨← field h "timeout" 0 text HttpSection.standard.timeout,
      ← field h "ca_file" 1 (some <$> text ·) none,
      ← field h "user_agent_comment" 2 (some <$> text ·) none,
      ← field h "max_body_size" 3 count HttpSection.standard.maxBodySize⟩
    storage := ⟨← field st "backend" 0 backend .sqlite,
      ← field st "path" 1 text "/var/lib/chartsync/catalog.db"⟩
    cache := ⟨← field c "max_workers" 0 count 10⟩
    repos := repos.mergeSort fun a b => a.1 ≤ b.1 }

/-- Settings from the text of a configuration file. -/
def parse? (text : String) : Option Settings := Toml.parse? text >>= ofToml

/-! ## Checking -/

/-- The faults of one repository section. -/
def checkRepo (name : String) (repo : RepoSection) : Except SettingsFault Unit :=
  if (Text.trim repo.url).isEmpty then
    .error (.invalid ("Repository '" ++ name ++ "' has an empty url"))
  else if repo.bearerToken.isSome && repo.authHeader.isSome then
    .error (.invalid ("Repository '" ++ name ++ "' sets both bearer_token and auth_header"))
  else .ok ()

/-- The seconds of a duration field. -/
def durationOf (field : String) (text : String) : Except SettingsFault Nat :=
  match Duration.parseSeconds text with
  | .ok n => .ok n
  | .error e => .error (.badDuration field e)

/-- Checks readable settings. -/
def validate (s : Settings) : Except SettingsFault Unit := do
  if s.sync.workers == 0 then throw (.invalid "sync.workers must be at least 1")
  if s.cache.maxWorkers == 0 then throw (.invalid "cache.max_workers must be at least 1")
  if s.http.maxBodySize == 0 then throw (.invalid "http.max_body_size must be at least 1")
  let _ ← durationOf "sync.interval" s.sync.interval
  let _ ← durationOf "http.timeout" s.http.timeout
  s.repos.forM fun (name, repo) => checkRepo name repo

/-- The configured repositories, by name: a bearer token becomes `Bearer <token>`,
trimmed; an `Authorization` value is kept as written. -/
def repositories (s : Settings) : List Repo :=
  s.repos.map fun (name, r) =>
    let auth := match r.bearerToken, r.authHeader with
      | some token, _ => some ("Bearer " ++ Text.trim token)
      | none, header => header
    ⟨name, r.ns, r.url, auth⟩

end Settings

/-- Why a configuration file cannot be used. -/
inductive LoadError where
  | unreadable (path : String)
  | unparsable (path : String)
  | refused (fault : SettingsFault)
  deriving DecidableEq, Repr

/-- The outermost message of a load failure. -/
def LoadError.message : LoadError → String
  | .unreadable path => "Failed to read config file: " ++ path
  | .unparsable path => "Failed to parse config file: " ++ path
  | .refused fault => fault.message

/-- Loads a configuration file at a path, given its text when the file exists. -/
def Settings.load (path : String) (contents : Option String) : Except LoadError Settings := do
  let text ← match contents with
    | some t => pure t
    | none => throw (.unreadable path)
  let settings ← match Settings.parse? text with
    | some s => pure s
    | none => throw (.unparsable path)
  match settings.validate with
  | .ok () => pure settings
  | .error fault => throw (.refused fault)

end ChartCatalog
