import ChartCatalog.Store.Catalog
import ChartCatalog.Http.Online

/-!
# Sync passes

A sync pass reads the web and writes the catalog store: it is an `Online` computation
whose state is the store. An error keeps the store writes that succeeded before it and
the requests that were sent.

Every store write of a pass goes through a fault plan (`StoreFaults`), which names the
writes that fail. A failing write fails as a whole, as a database transaction does: the
store is left as it was and the pass sees the error. The backends themselves never fail
these writes, so the plan stands for the database or the disk giving out; the plan
`StoreFaults.none` lets every write through.
-/

set_option autoImplicit false

namespace ChartCatalog

open Http

/-- A computation of a sync pass. -/
abbrev Pass := Online Catalog

/-- Which store writes fail, and with what error. -/
structure StoreFaults where
  fails : CatalogOp → Option CatalogError

/-- The plan under which every store write succeeds. -/
def StoreFaults.none : StoreFaults := ⟨fun _ => Option.none⟩

namespace Pass

export Online (ofOutcome get getChecked reading writing)

/-- The store as it is now. -/
def catalog : Pass Catalog := Online.current

/-- Runs a store write, unless the fault plan makes it fail. -/
def storeWrite {α : Type} (faults : StoreFaults) (op : CatalogOp)
    (write : Catalog → Outcome (α × Catalog)) : Pass α :=
  match faults.fails op with
  | some e => throw e
  | Option.none => writing write

/-- Stores charts of a repository under their ids. -/
def importCharts (faults : StoreFaults) (repo : Repo) (charts : List Chart) : Pass Unit :=
  storeWrite faults (.importCharts repo charts) fun c =>
    (c.importCharts repo charts).map ((), ·)

/-- Removes the charts of a repository whose ids are not kept, and counts them. -/
def removeMissing (faults : StoreFaults) (repoName : String) (keep : List String) : Pass Nat :=
  storeWrite faults (.removeMissing repoName keep) fun c => .ok (c.removeMissing repoName keep)

/-- Records the checksum of a repository's index synced at an instant. -/
def updateLastCheck (faults : StoreFaults) (repo : Repo) (checksum : String) (now : Instant) :
    Pass Unit :=
  storeWrite faults (.updateLastCheck repo checksum now) fun c =>
    (c.updateLastCheck repo checksum now).map ((), ·)

/-- Stores chart files under their id. -/
def insertFiles (faults : StoreFaults) (chartId : String) (files : ChartFiles) : Pass Unit :=
  storeWrite faults (.insertFiles chartId files) fun c =>
    (c.insertFiles chartId files).map ((), ·)

/-- Attaches an icon to a stored chart of a repository. -/
def updateIcon (faults : StoreFaults) (repo : Repo) (chartId : String) (icon : ByteArray)
    (contentType : String) : Pass Unit :=
  storeWrite faults (.updateIcon repo chartId icon contentType) fun c =>
    (c.updateIcon repo chartId icon contentType).map ((), ·)

end Pass

end ChartCatalog
