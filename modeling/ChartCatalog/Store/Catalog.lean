import ChartCatalog.Store.Documents
import ChartCatalog.Store.Relational

/-!
# The catalog store

A catalog store is either backend, with one contract: charts imported and reconciled
per repository, checkpoints of synced indexes, and chart files per version. An operation
that fails leaves the store as it was, so every operation maps a store to an answer and
the next store, or to an error.

Syncing a repository imports its charts and then removes the charts of that repository
that are no longer listed, answering how many were removed.

Reopening a store keeps what a relational store holds, since it lives in its database
file, and empties a document store, which lives in memory only.
-/

set_option autoImplicit false

namespace ChartCatalog

/-- A catalog store of either backend. -/
inductive Catalog where
  | relational (r : RelationalCatalog)
  | documents (d : DocumentCatalog)
  deriving Inhabited

/-- An operation on a catalog store. -/
inductive CatalogOp where
  | importCharts (repo : Repo) (charts : List Chart)
  | removeMissing (repoName : String) (keep : List String)
  | sync (repo : Repo) (charts : List Chart)
  | alreadyProcessed (repoName checksum : String)
  | updateLastCheck (repo : Repo) (checksum : String) (now : Instant)
  | deleteRepo (repoName : String)
  | filesExist (filesId repoName ns digest : String)
  | insertFiles (chartId : String) (files : ChartFiles)
  | updateIcon (repo : Repo) (chartId : String) (icon : ByteArray) (contentType : String)
  | getChart (chartId : String)
  | listCharts (repoName : String)
  | getFiles (filesId : String)
  | getCheckpoint (repoName : String)

/-- What an operation on a catalog store answers. -/
inductive CatalogAnswer where
  | done
  | count (n : Nat)
  | flag (b : Bool)
  | chart (chart : Option Chart)
  | charts (charts : List Chart)
  | files (files : Option ChartFiles)
  | checkpoint (checkpoint : Option Checkpoint)

namespace Catalog

/-- The empty relational store. -/
def emptyRelational : Catalog := .relational .empty

/-- The empty document store. -/
def emptyDocuments : Catalog := .documents .empty

/-- The store as it is found when opened again. -/
def reopen : Catalog → Catalog
  | .relational r => .relational r
  | .documents _ => .documents .empty

/-- Stores charts of a repository under their ids. -/
def importCharts (c : Catalog) (repo : Repo) (charts : List Chart) : Outcome Catalog :=
  match c with
  | .relational r => .ok (.relational (r.importCharts repo charts))
  | .documents d => (d.importCharts charts).map .documents

/-- Removes the charts of a repository whose ids are not kept, and counts them. -/
def removeMissing (c : Catalog) (repoName : String) (keep : List String) : Nat × Catalog :=
  match c with
  | .relational r => let (n, r) := r.removeMissing repoName keep; (n, .relational r)
  | .documents d => let (n, d) := d.removeMissing repoName keep; (n, .documents d)

/-- Imports a repository's charts and removes its charts that are no longer listed,
counting those. -/
def sync (c : Catalog) (repo : Repo) (charts : List Chart) : Outcome (Nat × Catalog) := do
  let c ← c.importCharts repo charts
  pure (c.removeMissing repo.name (charts.map Chart.id))

/-- Whether the checkpoint of a repository has this checksum. -/
def alreadyProcessed (c : Catalog) (repoName checksum : String) : Bool :=
  match c with
  | .relational r => r.alreadyProcessed repoName checksum
  | .documents d => d.alreadyProcessed repoName checksum

/-- Records the checksum of a repository's index synced at an instant. -/
def updateLastCheck (c : Catalog) (repo : Repo) (checksum : String) (now : Instant) :
    Outcome Catalog :=
  match c with
  | .relational r => .ok (.relational (r.updateLastCheck repo checksum now))
  | .documents d => (d.updateLastCheck repo checksum now).map .documents

/-- Removes everything stored for a repository. -/
def deleteRepo (c : Catalog) (repoName : String) : Catalog :=
  match c with
  | .relational r => .relational (r.deleteRepo repoName)
  | .documents d => .documents (d.deleteRepo repoName)

/-- Whether chart files of this id are stored for this repository and digest. -/
def filesExist (c : Catalog) (filesId repoName ns digest : String) : Bool :=
  match c with
  | .relational r => r.filesExist filesId repoName ns digest
  | .documents d => d.filesExist filesId repoName ns digest

/-- Stores chart files under their id. -/
def insertFiles (c : Catalog) (chartId : String) (files : ChartFiles) : Outcome Catalog :=
  match c with
  | .relational r => .ok (.relational (r.insertFiles chartId files))
  | .documents d => (d.insertFiles chartId files).map .documents

/-- Attaches an icon to a stored chart of a repository. -/
def updateIcon (c : Catalog) (repo : Repo) (chartId : String) (icon : ByteArray)
    (contentType : String) : Outcome Catalog :=
  match c with
  | .relational r => (r.updateIcon repo chartId icon contentType).map .relational
  | .documents d => (d.updateIcon repo chartId icon contentType).map .documents

/-- The chart of an id. -/
def getChart (c : Catalog) (chartId : String) : Outcome (Option Chart) :=
  match c with
  | .relational r => .ok (r.getChart chartId)
  | .documents d => d.getChart chartId

/-- The charts of a repository, by id. -/
def listCharts (c : Catalog) (repoName : String) : Outcome (List Chart) :=
  match c with
  | .relational r => .ok (r.listCharts repoName)
  | .documents d => d.listCharts repoName

/-- The chart files of an id. -/
def getFiles (c : Catalog) (filesId : String) : Outcome (Option ChartFiles) :=
  match c with
  | .relational r => .ok (r.getFiles filesId)
  | .documents d => d.getFiles filesId

/-- The checkpoint of a repository. -/
def getCheckpoint (c : Catalog) (repoName : String) : Outcome (Option Checkpoint) :=
  match c with
  | .relational r => r.getCheckpoint repoName
  | .documents d => d.getCheckpoint repoName

/-- Runs one operation: its answer and the store after it. -/
def run (c : Catalog) : CatalogOp → Outcome (CatalogAnswer × Catalog)
  | .importCharts repo charts => (c.importCharts repo charts).map (.done, ·)
  | .removeMissing repoName keep => let (n, c) := c.removeMissing repoName keep; .ok (.count n, c)
  | .sync repo charts => (c.sync repo charts).map fun (n, c) => (.count n, c)
  | .alreadyProcessed repoName checksum => .ok (.flag (c.alreadyProcessed repoName checksum), c)
  | .updateLastCheck repo checksum now => (c.updateLastCheck repo checksum now).map (.done, ·)
  | .deleteRepo repoName => .ok (.done, c.deleteRepo repoName)
  | .filesExist filesId repoName ns digest =>
    .ok (.flag (c.filesExist filesId repoName ns digest), c)
  | .insertFiles chartId files => (c.insertFiles chartId files).map (.done, ·)
  | .updateIcon repo chartId icon contentType =>
    (c.updateIcon repo chartId icon contentType).map (.done, ·)
  | .getChart chartId => (c.getChart chartId).map (.chart ·, c)
  | .listCharts repoName => (c.listCharts repoName).map (.charts ·, c)
  | .getFiles filesId => (c.getFiles filesId).map (.files ·, c)
  | .getCheckpoint repoName => (c.getCheckpoint repoName).map (.checkpoint ·, c)

end Catalog

end ChartCatalog
