import ChartCatalog.Store.Table
import ChartCatalog.Catalog.Json
import ChartCatalog.Error

/-!
# The relational catalog

The catalog kept as three tables with primary keys: `charts` (chart id), `repos`
(repository name) and `files` (chart files id). A chart row files the chart under the
repository it was imported with, which is what listing, removal, deletion and icon
updates match on, whatever repository the chart itself names. A chart files row is
filed under the repository the chart files name.

A checkpoint row keeps its instant as timestamp text with a `+00:00` offset and reads it
back strictly, so an instant whose year has no four-digit form is written but cannot be
read back.
-/

set_option autoImplicit false

namespace ChartCatalog

/-- A stored chart and the repository it was imported under. -/
structure ChartRow where
  repoName : String
  repoNs : String
  chart : Chart
  deriving Inhabited

/-- A stored checkpoint, keyed by repository name. -/
structure CheckpointRow where
  ns : String
  checksum : String
  /-- The timestamp text of the instant of the sync. -/
  lastUpdate : String
  deriving Inhabited, DecidableEq

/-- Stored chart files and the id of their chart. -/
structure FilesRow where
  chartId : String
  files : ChartFiles
  deriving Inhabited

/-- The catalog as tables. -/
structure RelationalCatalog where
  charts : Table ChartRow
  repos : Table CheckpointRow
  files : Table FilesRow
  deriving Inhabited

namespace RelationalCatalog

/-- The empty catalog. -/
def empty : RelationalCatalog := ⟨.empty, .empty, .empty⟩

/-- The number of rows of a table by name. -/
def countRows (r : RelationalCatalog) (table : String) : Outcome Nat :=
  if table == "charts" then .ok r.charts.size
  else if table == "repos" then .ok r.repos.size
  else if table == "files" then .ok r.files.size
  else .error (.store ("Unknown table " ++ table))

/-- Stores charts under their ids, filed under the given repository. -/
def importCharts (r : RelationalCatalog) (repo : Repo) (charts : List Chart) :
    RelationalCatalog :=
  let file (t : Table ChartRow) (chart : Chart) := t.insert chart.id ⟨repo.name, repo.ns, chart⟩
  { r with charts := charts.foldl file r.charts }

/-- Removes the charts filed under a repository whose ids are not kept, and counts them. -/
def removeMissing (r : RelationalCatalog) (repoName : String) (keep : List String) :
    Nat × RelationalCatalog :=
  let (count, charts) := r.charts.removeWhere fun id row =>
    row.repoName == repoName && !keep.contains id
  (count, { r with charts := charts })

/-- Whether the checkpoint of a repository has this checksum. -/
def alreadyProcessed (r : RelationalCatalog) (repoName checksum : String) : Bool :=
  match r.repos.get? repoName with
  | some row => row.checksum == checksum
  | none => false

/-- Records the checksum of a repository's index synced at an instant. -/
def updateLastCheck (r : RelationalCatalog) (repo : Repo) (checksum : String) (now : Instant) :
    RelationalCatalog :=
  { r with repos := r.repos.insert repo.name ⟨repo.ns, checksum, now.textWithOffset⟩ }

/-- Removes the charts and chart files filed under a repository, and its checkpoint. -/
def deleteRepo (r : RelationalCatalog) (repoName : String) : RelationalCatalog :=
  { charts := (r.charts.removeWhere fun _ row => row.repoName == repoName).2
    files := (r.files.removeWhere fun _ row => row.files.repo.name == repoName).2
    repos := (r.repos.removeWhere fun name _ => name == repoName).2 }

/-- Whether chart files of this id are stored for this repository and digest. -/
def filesExist (r : RelationalCatalog) (filesId repoName ns digest : String) : Bool :=
  match r.files.get? filesId with
  | some row => row.files.repo.name == repoName && row.files.repo.ns == ns &&
      row.files.digest == digest
  | none => false

/-- Stores chart files under their id, with the id of their chart. -/
def insertFiles (r : RelationalCatalog) (chartId : String) (files : ChartFiles) :
    RelationalCatalog :=
  { r with files := r.files.insert files.id ⟨chartId, files⟩ }

/-- Attaches an icon to the chart of this id filed under this repository. -/
def updateIcon (r : RelationalCatalog) (repo : Repo) (chartId : String) (icon : ByteArray)
    (contentType : String) : Outcome RelationalCatalog :=
  match r.charts.get? chartId with
  | some row =>
    if row.repoName == repo.name && row.repoNs == repo.ns then
      let chart := { row.chart with rawIcon := some icon, iconContentType := some contentType }
      .ok { r with charts := r.charts.insert chartId { row with chart := chart } }
    else .error (.store ("Chart " ++ chartId ++ " not found in repository " ++ repo.name))
  | none => .error (.store ("Chart " ++ chartId ++ " not found in repository " ++ repo.name))

/-- The chart of an id. -/
def getChart (r : RelationalCatalog) (chartId : String) : Option Chart :=
  (r.charts.get? chartId).map ChartRow.chart

/-- The charts filed under a repository, by id. -/
def listCharts (r : RelationalCatalog) (repoName : String) : List Chart :=
  (r.charts.select fun _ row => row.repoName == repoName).map ChartRow.chart

/-- The chart files of an id. -/
def getFiles (r : RelationalCatalog) (filesId : String) : Option ChartFiles :=
  (r.files.get? filesId).map FilesRow.files

/-- The checkpoint of a repository; its timestamp text must read back strictly. The text
is the one `updateLastCheck` wrote, which fails to read back only for a year outside
0..9999, written with its sign in front: the strict reader wants four digits there and
stops at the sign, an invalid character. -/
def getCheckpoint (r : RelationalCatalog) (repoName : String) : Outcome (Option Checkpoint) :=
  match r.repos.get? repoName with
  | none => .ok none
  | some row =>
    match Instant.parseStrict? row.lastUpdate with
    | some t => .ok (some ⟨repoName, row.ns, row.checksum, t⟩)
    | none => .error (.store ("Invalid checkpoint timestamp: input contains invalid characters"))

end RelationalCatalog

end ChartCatalog
