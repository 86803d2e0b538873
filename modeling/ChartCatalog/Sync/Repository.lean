import ChartCatalog.Sync.Artifacts
import ChartCatalog.Repository.Index
import ChartCatalog.Catalog.Build
import ChartCatalog.Catalog.Jobs
import ChartCatalog.Config.Settings

/-!
# Syncing a repository

One pass over a repository runs in order:

1. fetch the index, with the repository's credentials, and stop with `skipped` when the
   stored checkpoint already has its checksum;
2. read the index and build the repository's charts;
3. refuse an index without charts while charts of the repository are stored, unless
   empty indexes are allowed: a truncated index never wipes a repository;
4. sync the store to the charts: import them, then remove the repository's charts that
   are no longer listed, as two store writes;
5. run the artifact jobs (`artifactJobs`): icons, then each chart's newest files, then
   older files. A job that fails is counted and the pass goes on;
6. record the checkpoint last, so a pass that stops part-way is run again in full.

A pass here runs the jobs one after another, in the order `artifactJobs` gives, as one
worker does. Each job comes to a result (`JobResult`), its error included, and the report
counts the results as they arrive (`SyncReport.count`).

Every store write goes through the pass's fault plan (`StoreFaults`); `syncRepo` is the
pass under the plan in which no write fails.

A periodic sync runs rounds at `0, interval, 2·interval, …` while the round's start is
before the end of the run; each round syncs every repository in order.
-/

set_option autoImplicit false

namespace ChartCatalog

/-- How a sync pass runs. -/
structure SyncOptions where
  /-- Artifact jobs run at once; zero acts as one. -/
  workers : Nat
  /-- Whether an index without charts may empty a repository that has charts. -/
  allowEmptyIndex : Bool
  deriving DecidableEq, Repr, Inhabited

/-- Ten workers, and an empty index is refused. -/
def SyncOptions.standard : SyncOptions := ⟨10, false⟩

/-- The sync options of a configuration's `[sync]` section, taken as they are. -/
def SyncOptions.ofSettings (s : SyncSection) : SyncOptions := ⟨s.workers, s.allowEmptyIndex⟩

/-- The counts of a completed pass. -/
structure SyncReport where
  charts : Nat
  chartsRemoved : Nat
  filesImported : Nat
  filesPresent : Nat
  filesFailed : Nat
  iconsImported : Nat
  iconsFailed : Nat
  deriving DecidableEq, Repr, Inhabited

/-- The report with every count zero. -/
def SyncReport.zero : SyncReport := ⟨0, 0, 0, 0, 0, 0, 0⟩

/-- What one artifact job came to: an icon or chart files imported, or the job's error. -/
inductive JobResult where
  | icon (result : Outcome IconOutcome)
  | files (result : Outcome FilesOutcome)

/-- Adds a job's result to a report: an imported icon or a failed job counts one, imported
and present chart files count what they hold, and a chart without an icon counts nothing. -/
def SyncReport.count (report : SyncReport) : JobResult → SyncReport
  | .icon (.ok (.imported _ _)) => { report with iconsImported := report.iconsImported + 1 }
  | .icon (.ok .noIcon) => report
  | .icon (.error _) => { report with iconsFailed := report.iconsFailed + 1 }
  | .files (.ok outcome) =>
    { report with filesImported := report.filesImported + outcome.imported,
                  filesPresent := report.filesPresent + outcome.alreadyPresent }
  | .files (.error _) => { report with filesFailed := report.filesFailed + 1 }

/-- How a pass ended. -/
inductive SyncOutcome where
  /-- The index is the one of the last completed pass. -/
  | skipped
  | synced (report : SyncReport)
  deriving DecidableEq, Repr, Inhabited

namespace Pass

/-- Downloads a repository's index. -/
def fetchIndex (repo : Repo) : Pass ByteArray := do
  let url ← ofOutcome (Repository.indexUrl repo.url)
  let response ← getChecked url repo.authHeader
  pure response.body

/-- Runs one artifact job; a job that fails gives its error as its result. -/
def runJob (faults : StoreFaults) (repo : Repo) : ArtifactJob → Pass JobResult
  | .icon chart =>
    tryCatch (do pure (.icon (.ok (← importIconUnder faults repo chart))))
      (fun e => pure (.icon (.error e)))
  | .files chart versions =>
    tryCatch (do pure (.files (.ok (← importFilesUnder faults repo chart versions))))
      (fun e => pure (.files (.error e)))

/-- Runs the artifact jobs of a chart set and counts their results as they arrive. -/
def importArtifacts (faults : StoreFaults) (repo : Repo) (charts : List Chart) :
    Pass SyncReport :=
  (artifactJobs charts).foldlM
    (fun report job => do pure (report.count (← runJob faults repo job))) SyncReport.zero

/-- The error of an index without charts for a repository that has `stored` charts. -/
def emptyIndexError (repoName : String) (stored : Nat) : CatalogError :=
  .parse ("Index of " ++ repoName ++ " lists no charts but " ++ toString stored ++
    " are stored; refusing to remove them")

/-- One sync pass over a repository, recording the checkpoint at `now`, under a fault plan
for the store writes. -/
def syncRepoUnder (faults : StoreFaults) (options : SyncOptions) (now : Instant) (repo : Repo) :
    Pass SyncOutcome := do
  let data ← fetchIndex repo
  let checksum := indexChecksum data
  if (← catalog).alreadyProcessed repo.name checksum then return .skipped
  let index ← ofOutcome (parseIndex data)
  let charts := chartsFromIndex index repo
  if charts.isEmpty && !options.allowEmptyIndex then
    let stored ← reading fun c => c.listCharts repo.name
    if !stored.isEmpty then throw (emptyIndexError repo.name stored.length)
  importCharts faults repo charts
  let removed ← removeMissing faults repo.name (charts.map Chart.id)
  let report ← importArtifacts faults repo charts
  updateLastCheck faults repo checksum now
  pure (.synced { report with charts := charts.length, chartsRemoved := removed })

/-- One sync pass over a repository, recording the checkpoint at `now`. -/
def syncRepo (options : SyncOptions) (now : Instant) (repo : Repo) : Pass SyncOutcome :=
  syncRepoUnder .none options now repo

/-- Syncs every repository once, in order, and counts the passes that failed. -/
def syncAll (options : SyncOptions) (now : Instant) (repos : List Repo) : Pass Nat :=
  repos.foldlM (fun failed repo =>
    tryCatch (do let _ ← syncRepo options now repo; pure failed) (fun _ => pure (failed + 1))) 0

/-- Removes everything stored for a repository. -/
def deleteRepo (repoName : String) : Pass Unit :=
  writing fun c => .ok ((), c.deleteRepo repoName)

/-- Runs a number of periodic rounds, each syncing every repository in order. -/
def runRounds (options : SyncOptions) (now : Instant) (repos : List Repo) : Nat → Pass Unit
  | 0 => pure ()
  | n + 1 => do
    let _ ← syncAll options now repos
    runRounds options now repos n

end Pass

/-- The number of rounds of a periodic sync with a period, run for a time: the rounds
start at multiples of the period before the end. A zero period has no rounds to count. -/
def periodicRounds (period runTime : Nat) : Option Nat :=
  if period == 0 then none else some ((runTime + period - 1) / period)

end ChartCatalog
