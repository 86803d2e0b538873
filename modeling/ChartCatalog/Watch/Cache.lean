import ChartCatalog.Watch.Kv
import ChartCatalog.Watch.Object
import ChartCatalog.Watch.Summaries
import ChartCatalog.Http.Online
import ChartCatalog.Repository.Index
import ChartCatalog.Catalog.Build
import ChartCatalog.Pool

/-!
# The package summary cache

The cache follows the lifecycle of the cluster's repository objects and keeps, under
each repository's name, the CBOR list of the package summaries of its index.

* An added or modified object that is ready is indexed: its index is fetched from
  `status.url` as given, without credentials, read, built into charts for the
  repository the object names, and the summaries of those charts replace the entry. A
  ready object without an index URL is not ready to be indexed.
* An added or modified object that is not ready, and a deleted object, clear the entry.

A failure at any point leaves the entry as it was. Reading the cache never fails: a
missing entry, an unreachable store and a value that does not decode all read as no
summaries.
-/

set_option autoImplicit false

namespace ChartCatalog

open Http

/-- A lifecycle event of a repository object. -/
inductive WatchEvent where
  | added (obj : Json)
  | modified (obj : Json)
  | deleted (obj : Json)
  deriving Inhabited

/-- The name of an event's kind. -/
def WatchEvent.kind : WatchEvent → String
  | .added _ => "Added"
  | .modified _ => "Modified"
  | .deleted _ => "Deleted"

namespace WatchCache

export Online (ofOutcome getChecked writing)

/-- The summaries of a ready repository object's index. -/
def indexRepo (obj : Json) : Online KvStore (List PackageSummary) := do
  let repo ← ofOutcome (RepoObject.repo obj)
  let url ← match ← ofOutcome (RepoObject.statusUrl obj) with
    | some u => pure u
    | none => throw (.notReady ("Repository " ++ repo.name ++ " has no status.url"))
  let response ← getChecked url none
  let index ← ofOutcome (parseIndex response.body)
  pure ((chartsFromIndex index repo).filterMap PackageSummary.ofChart)

/-- Indexes a ready object, or clears the entry of one that is not ready. -/
def onAddOrModify (obj : Json) : Online KvStore Unit := do
  let name ← ofOutcome (RepoObject.name obj)
  if !(← ofOutcome (RepoObject.isReady obj)) then
    let _ ← writing fun kv => kv.del name
  else
    let summaries ← indexRepo obj
    writing fun kv => (kv.set name (Summaries.encode summaries)).map ((), ·)

/-- Clears the entry of a deleted object. -/
def onDelete (obj : Json) : Online KvStore Unit := do
  let name ← ofOutcome (RepoObject.name obj)
  let _ ← writing fun kv => kv.del name

/-- Applies one event; its failure is dropped. -/
def handleEvent (event : WatchEvent) : Online KvStore Unit :=
  tryCatch
    (match event with
      | .added obj | .modified obj => onAddOrModify obj
      | .deleted obj => onDelete obj)
    (fun _ => pure ())

/-- The cached summaries of a repository; none when missing, unreachable or undecodable. -/
def summariesFor (kv : KvStore) (name : String) : List PackageSummary :=
  match kv.get name with
  | .ok (some bytes) => (Summaries.decode? bytes).getD []
  | _ => []

/-- What one worker reads for a repository object: the cached summaries under its name, or
the error of an object without one. -/
def readSummaries (kv : KvStore) (obj : Json) : Outcome (List PackageSummary) :=
  (RepoObject.name obj).map (summariesFor kv)

/-- The summaries of the reads in the order they arrive, skipping the objects without a
name. -/
def gather (reads : List (Outcome (List PackageSummary))) : List PackageSummary :=
  reads.flatMap fun
    | .ok found => found
    | .error _ => []

/-- The cached summaries of many repository objects, read on a pool of at most
`maxWorkers` workers, skipping objects without a name: each object's summaries are one
block, and the blocks come in the order the reads arrive, here under the pool's fixed
schedule. -/
def fetchSummaries (kv : KvStore) (maxWorkers : Nat) (objs : List Json) : List PackageSummary :=
  gather (Pool.runScheduled objs maxWorkers (readSummaries kv))

end WatchCache

end ChartCatalog
