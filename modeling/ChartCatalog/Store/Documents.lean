import ChartCatalog.Store.Collection
import ChartCatalog.Catalog.Json

/-!
# The document catalog

The catalog kept as three document collections: `charts` keyed by chart id, `repos`
keyed by repository name and holding checkpoints, and `files` keyed by chart files id.
Every record is stored in its JSON form, so a chart belongs to the repository its own
`repo` member names, and chart files carry the id of their chart as `chart_id`.

Reading a record back decodes its document; a document that does not decode, which
only direct writes to a collection can leave behind, is reported as a corrupt document.
-/

set_option autoImplicit false

namespace ChartCatalog

/-- The catalog as document collections. -/
structure DocumentCatalog where
  charts : Collection
  repos : Collection
  files : Collection
  deriving Inhabited

namespace DocumentCatalog

/-- The empty catalog. -/
def empty : DocumentCatalog :=
  ⟨.empty "charts", .empty "repos", .empty "files"⟩

/-- The collection of a name. -/
def collection? (d : DocumentCatalog) (name : String) : Option Collection :=
  if name == "charts" then some d.charts
  else if name == "repos" then some d.repos
  else if name == "files" then some d.files
  else none

/-- The catalog with the collection of the given collection's name replaced by it. -/
def withCollection (d : DocumentCatalog) (c : Collection) : DocumentCatalog :=
  if c.name == "charts" then { d with charts := c }
  else if c.name == "repos" then { d with repos := c }
  else if c.name == "files" then { d with files := c }
  else d

/-- A record decoded from its document. -/
def decodeDocument {α : Type} (read : Json → Except String α) (doc : Json) : Outcome α :=
  match read doc with
  | .ok value => .ok value
  | .error e => .error (.store ("Corrupt document in catalog: " ++ e))

/-- Stores charts under their ids, each in the repository its `repo` names. -/
def importCharts (d : DocumentCatalog) (charts : List Chart) : Outcome DocumentCatalog := do
  let (_, c) ← d.charts.bulkUpsert (charts.map fun chart =>
    (.obj [("_id", .str chart.id)], chart.toJson))
  pure { d with charts := c }

/-- Removes the charts of a repository whose ids are not kept, and counts them. -/
def removeMissing (d : DocumentCatalog) (repoName : String) (keep : List String) :
    Nat × DocumentCatalog :=
  let (count, c) := d.charts.removeAll
    (.all [Filter.textAt "repo.name" repoName, .notIn ["_id"] (keep.map .str)])
  (count, { d with charts := c })

/-- Whether the checkpoint of a repository has this checksum. -/
def alreadyProcessed (d : DocumentCatalog) (repoName checksum : String) : Bool :=
  (d.repos.findOne (.all [Filter.onId repoName, Filter.textAt "checksum" checksum])).isSome

/-- Records the checksum of a repository's index synced at an instant. -/
def updateLastCheck (d : DocumentCatalog) (repo : Repo) (checksum : String) (now : Instant) :
    Outcome DocumentCatalog := do
  let c ← d.repos.upsert repo.name (Checkpoint.toJson ⟨repo.name, repo.ns, checksum, now⟩)
  pure { d with repos := c }

/-- Removes the charts, chart files and checkpoint of a repository. -/
def deleteRepo (d : DocumentCatalog) (repoName : String) : DocumentCatalog :=
  { charts := (d.charts.removeAll (Filter.textAt "repo.name" repoName)).2
    files := (d.files.removeAll (Filter.textAt "repo.name" repoName)).2
    repos := (d.repos.removeAll (Filter.onId repoName)).2 }

/-- Whether chart files of this id are stored for this repository and digest. -/
def filesExist (d : DocumentCatalog) (filesId repoName ns digest : String) : Bool :=
  (d.files.findOne (.all [Filter.onId filesId, Filter.textAt "repo.name" repoName,
    Filter.textAt "repo.namespace" ns, Filter.textAt "digest" digest])).isSome

/-- Stores chart files under their id, with the id of their chart. -/
def insertFiles (d : DocumentCatalog) (chartId : String) (files : ChartFiles) :
    Outcome DocumentCatalog := do
  let c ← d.files.upsert files.id (files.toJson.set "chart_id" (.str chartId))
  pure { d with files := c }

/-- Attaches an icon to the chart of this id in this repository. -/
def updateIcon (d : DocumentCatalog) (repo : Repo) (chartId : String) (icon : ByteArray)
    (contentType : String) : Outcome DocumentCatalog :=
  let (count, c) := d.charts.updateFields
    (.all [Filter.onId chartId, Filter.textAt "repo.name" repo.name,
      Filter.textAt "repo.namespace" repo.ns])
    [("raw_icon", .str (Base64.encode icon)), ("icon_content_type", .str contentType)]
  if count == 0 then
    .error (.store ("Chart " ++ chartId ++ " not found in repository " ++ repo.name))
  else .ok { d with charts := c }

/-- The chart of an id. -/
def getChart (d : DocumentCatalog) (chartId : String) : Outcome (Option Chart) :=
  (d.charts.findOne (Filter.onId chartId)).mapM (decodeDocument Chart.ofJson)

/-- The charts of a repository, by id. -/
def listCharts (d : DocumentCatalog) (repoName : String) : Outcome (List Chart) :=
  (d.charts.find (Filter.textAt "repo.name" repoName)).mapM (decodeDocument Chart.ofJson)

/-- The chart files of an id. -/
def getFiles (d : DocumentCatalog) (filesId : String) : Outcome (Option ChartFiles) :=
  (d.files.findOne (Filter.onId filesId)).mapM (decodeDocument ChartFiles.ofJson)

/-- The checkpoint of a repository. -/
def getCheckpoint (d : DocumentCatalog) (repoName : String) : Outcome (Option Checkpoint) :=
  (d.repos.findOne (Filter.onId repoName)).mapM (decodeDocument Checkpoint.ofJson)

end DocumentCatalog

end ChartCatalog
