import ChartCatalog.Catalog.Model
import ChartCatalog.Json.Record
import ChartCatalog.Time.Rfc3339
import ChartCatalog.Text.Base64

/-!
# Records as JSON

The JSON form of the catalog's records, as the store keeps them and answers give them.
Members are named in snake case; the namespace is `namespace`, a chart's versions are
`chart_versions`, the instant of a version is its timestamp text (`Instant.text`) or
`null`, and a stored icon is base64 text. A chart without a stored icon or icon type
leaves those members out.

Reading takes an object by member names or an array by position. A chart needs its id,
name, repository and versions, a repository reference its name, a version its version
string, chart files their id and repository, and a checkpoint its name, checksum and
time; every other member defaults to empty.
-/

set_option autoImplicit false

namespace ChartCatalog

open Json

/-! ## Writing -/

/-- The JSON form of a repository reference. -/
def RepoRef.toJson (r : RepoRef) : Json :=
  .obj [("name", .str r.name), ("namespace", .str r.ns), ("url", .str r.url)]

/-- The JSON form of a maintainer. -/
def Maintainer.toJson (m : Maintainer) : Json :=
  .obj [("email", .str m.email), ("name", .str m.name), ("url", .str m.url)]

/-- The JSON form of a version. -/
def ChartVersion.toJson (v : ChartVersion) : Json :=
  .obj [("app_version", .str v.appVersion),
    ("created", match v.created with
      | some t => .str t.text
      | none => .null),
    ("digest", .str v.digest), ("urls", .arr (v.urls.map .str)), ("version", .str v.version)]

/-- The JSON form of a chart. -/
def Chart.toJson (c : Chart) : Json :=
  let optional : List (String × Json) :=
    (match c.iconContentType with
      | some t => [("icon_content_type", Json.str t)]
      | none => []) ++
    (match c.rawIcon with
      | some bytes => [("raw_icon", Json.str (Base64.encode bytes))]
      | none => [])
  Json.ofFields ([("chart_versions", .arr (c.versions.map ChartVersion.toJson)),
    ("description", .str c.description), ("home", .str c.home), ("icon", .str c.icon),
    ("id", .str c.id), ("keywords", .arr (c.keywords.map .str)),
    ("maintainers", .arr (c.maintainers.map Maintainer.toJson)), ("name", .str c.name),
    ("repo", c.repo.toJson), ("sources", .arr (c.sources.map .str))] ++ optional)

/-- The JSON form of chart files. -/
def ChartFiles.toJson (f : ChartFiles) : Json :=
  .obj [("digest", .str f.digest), ("id", .str f.id), ("readme", .str f.readme),
    ("repo", f.repo.toJson), ("schema", .str f.schema), ("values", .str f.values)]

/-- The JSON form of a checkpoint. -/
def Checkpoint.toJson (c : Checkpoint) : Json :=
  .obj [("checksum", .str c.checksum), ("last_update", .str c.lastUpdate.text),
    ("name", .str c.name), ("namespace", .str c.ns)]

/-- The JSON form of a package summary. -/
def PackageSummary.toJson (s : PackageSummary) : Json :=
  .obj [("display_name", .str s.displayName), ("icon_url", .str s.iconUrl),
    ("identifier", .str s.identifier), ("latest_version", .str s.latestVersion),
    ("namespace", .str s.ns)]

/-! ## Reading -/

/-- An instant from its timestamp text. -/
def readInstant (v : Json) : Except String Instant := do
  let text ← readText v
  match Instant.parse? text with
  | some t => pure t
  | none => throw "invalid timestamp"

/-- Bytes from base64 text. -/
def readBase64 (v : Json) : Except String ByteArray := do
  let text ← readText v
  match Base64.decode? text with
  | some bytes => pure bytes
  | none => throw "invalid base64"

/-- Reads a repository reference. -/
def RepoRef.ofJson (v : Json) : Except String RepoRef := do
  let f ← fieldsOf 3 v
  pure ⟨← f.need 0 "name" readText, ← f.withDefault 1 "namespace" readText "",
    ← f.withDefault 2 "url" readText ""⟩

/-- Reads a maintainer. -/
def Maintainer.ofJson (v : Json) : Except String Maintainer := do
  let f ← fieldsOf 3 v
  pure ⟨← f.withDefault 0 "name" readText "", ← f.withDefault 1 "email" readText "",
    ← f.withDefault 2 "url" readText ""⟩

/-- Reads a version. -/
def ChartVersion.ofJson (v : Json) : Except String ChartVersion := do
  let f ← fieldsOf 5 v
  pure ⟨← f.need 0 "version" readText, ← f.withDefault 1 "app_version" readText "",
    ← f.withDefault 2 "created" (readOption readInstant) none,
    ← f.withDefault 3 "digest" readText "", ← f.withDefault 4 "urls" (readList readText) []⟩

/-- Reads a chart. -/
def Chart.ofJson (v : Json) : Except String Chart := do
  let f ← fieldsOf 12 v
  pure {
    id := ← f.need 0 "id" readText
    name := ← f.need 1 "name" readText
    repo := ← f.need 2 "repo" RepoRef.ofJson
    description := ← f.withDefault 3 "description" readText ""
    home := ← f.withDefault 4 "home" readText ""
    keywords := ← f.withDefault 5 "keywords" (readList readText) []
    maintainers := ← f.withDefault 6 "maintainers" (readList Maintainer.ofJson) []
    sources := ← f.withDefault 7 "sources" (readList readText) []
    icon := ← f.withDefault 8 "icon" readText ""
    rawIcon := ← f.withDefault 9 "raw_icon" (readOption readBase64) none
    iconContentType := ← f.withDefault 10 "icon_content_type" (readOption readText) none
    versions := ← f.need 11 "chart_versions" (readList ChartVersion.ofJson) }

/-- Reads chart files. -/
def ChartFiles.ofJson (v : Json) : Except String ChartFiles := do
  let f ← fieldsOf 6 v
  pure ⟨← f.need 0 "id" readText, ← f.withDefault 1 "readme" readText "",
    ← f.withDefault 2 "values" readText "", ← f.withDefault 3 "schema" readText "",
    ← f.need 4 "repo" RepoRef.ofJson, ← f.withDefault 5 "digest" readText ""⟩

/-- Reads a checkpoint. -/
def Checkpoint.ofJson (v : Json) : Except String Checkpoint := do
  let f ← fieldsOf 4 v
  pure ⟨← f.need 0 "name" readText, ← f.withDefault 1 "namespace" readText "",
    ← f.need 2 "checksum" readText, ← f.need 3 "last_update" readInstant⟩

/-- Reads a package summary. -/
def PackageSummary.ofJson (v : Json) : Except String PackageSummary := do
  let f ← fieldsOf 5 v
  pure ⟨← f.need 0 "display_name" readText, ← f.need 1 "latest_version" readText,
    ← f.need 2 "icon_url" readText, ← f.need 3 "namespace" readText,
    ← f.need 4 "identifier" readText⟩

end ChartCatalog
