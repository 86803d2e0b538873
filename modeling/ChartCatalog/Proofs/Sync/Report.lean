import ChartCatalog.Proofs.Sync.Pass

/-!
# What a pass reports

A pass runs the artifact jobs of its charts (`artifactJobs`) and counts their results into
its report as they arrive (`SyncReport.count`). Run concurrently, the jobs finish in any
order and each may fail or succeed whatever the others do. So the report is stated here
for every list of results the jobs can come to (`ArtifactJob.Yields`), arriving in every
order.

Three facts carry it. A job comes to a result it can come to (`Pass.runJob_yields`): an
icon job finds no icon only for a blank icon URL, and a files job counts each of its
versions once, as imported or present. Counting two results in either order gives one
report (`SyncReport.count_right_comm`), so results counted in any order give one report.
And the jobs of a chart set hold one icon job for each chart with an icon URL and each
version of each chart in exactly one files job (`countP_isIcon_artifactJobs`,
`sum_versions_artifactJobs`). From these, a pass that reports a sync accounts for every
job once (`sync_report_counts_every_job`).
-/

set_option autoImplicit false

namespace ChartCatalog

open Http

/-! ## What a job can come to -/

namespace ArtifactJob

/-- The versions whose files a job imports; an icon job has none. -/
def versions : ArtifactJob → List ChartVersion
  | .icon _ => []
  | .files _ versions => versions

/-- Whether a job fetches an icon. -/
def isIcon : ArtifactJob → Bool
  | .icon _ => true
  | .files _ _ => false

/-- The results a job can come to, whatever the web and the store answer: an icon job
imports its icon or fails, and finds no icon only for a chart whose icon URL is blank; a
files job fails, or counts each of its versions once, as imported or as present. -/
def Yields : ArtifactJob → JobResult → Prop
  | .icon chart, .icon (.ok .noIcon) => (Text.trim chart.icon).isEmpty = true
  | .icon _, .icon (.ok (.imported _ _)) => True
  | .icon _, .icon (.error _) => True
  | .files _ versions, .files (.ok outcome) =>
    outcome.imported + outcome.alreadyPresent = versions.length
  | .files _ _, .files (.error _) => True
  | .icon _, .files _ => False
  | .files _ _, .icon _ => False

end ArtifactJob

/-- Whether a job failed. -/
def JobResult.failed : JobResult → Bool
  | .icon (.error _) | .files (.error _) => true
  | _ => false

namespace Pass

open Online

theorem importIconUnder_returns (faults : StoreFaults) (repo : Repo) (chart : Chart) :
    Returns (fun outcome => outcome = .noIcon → (Text.trim chart.icon).isEmpty = true)
      (importIconUnder faults repo chart) := by
  unfold importIconUnder
  dsimp only
  split
  next blank => exact returns_pure fun _ => blank
  next =>
    -- past the blank check, every path that returns stores an icon
    have stored : ∀ icon : ByteArray × String,
        Returns (fun outcome => outcome = .noIcon → (Text.trim chart.icon).isEmpty = true) (do
          updateIcon faults repo chart.id icon.1 icon.2
          pure (IconOutcome.imported icon.2 icon.1.size)) := fun _ =>
      (returns_trivial _).bind fun _ _ => returns_pure nofun
    refine (returns_trivial _).bind fun response _ => ?_
    split
    · exact (returns_trivial _).bind fun icon _ => stored icon
    · exact (returns_trivial _).bind fun _ _ => (returns_trivial _).bind fun icon _ => stored icon

theorem length_missingFiles_le (c : Catalog) (repo : Repo) (chart : Chart)
    (versions : List ChartVersion) : (missingFiles c repo chart versions).length ≤ versions.length := by
  unfold missingFiles
  exact (List.length_filter_le _ _).trans (List.length_map _).le

theorem importFilesUnder_returns (faults : StoreFaults) (repo : Repo) (chart : Chart)
    (versions : List ChartVersion) :
    Returns (fun outcome => outcome.imported + outcome.alreadyPresent = versions.length)
      (importFilesUnder faults repo chart versions) := by
  unfold importFilesUnder
  refine (returns_trivial _).bind fun c _ => ?_
  have fewer := length_missingFiles_le c repo chart versions
  dsimp only
  split
  · next nothingMissing => exact returns_pure (by simp [nothingMissing])
  · -- the files of the missing versions are imported and the rest counted as present
    refine (returns_trivial _).bind fun _ _ => (returns_trivial _).bind fun _ _ => ?_
    refine (returns_trivial _).bind fun _ _ => (returns_trivial _).bind fun _ _ => ?_
    exact returns_pure (by dsimp only; omega)

/-- A job comes to one of the results it can come to. -/
theorem runJob_yields (faults : StoreFaults) (repo : Repo) (job : ArtifactJob) :
    Returns job.Yields (runJob faults repo job) := by
  cases job with
  | icon chart =>
    refine returns_tryCatch ((importIconUnder_returns faults repo chart).bind fun outcome blank =>
      returns_pure ?_) fun _ => returns_pure trivial
    cases outcome with
    | noIcon => exact blank rfl
    | imported _ _ => trivial
  | files chart versions =>
    exact returns_tryCatch ((importFilesUnder_returns faults repo chart versions).bind
      fun _ counted => returns_pure counted) fun _ => returns_pure trivial

/-- Jobs run one after another come to results they can come to, and the report is the
count of those results. -/
theorem returns_foldlM_count (faults : StoreFaults) (repo : Repo) :
    ∀ (jobs : List ArtifactJob) (init : SyncReport),
      Returns (fun report => ∃ outcomes, List.Forall₂ ArtifactJob.Yields jobs outcomes ∧
          report = outcomes.foldl SyncReport.count init)
        (jobs.foldlM (fun report job => do pure (report.count (← runJob faults repo job))) init)
  | [], init => returns_pure ⟨[], .nil, rfl⟩
  | job :: rest, init => by
    rw [List.foldlM_cons]
    refine ((runJob_yields faults repo job).bind fun result yields =>
      returns_pure (P := fun report => ∃ result, job.Yields result ∧ report = init.count result)
        ⟨result, yields, rfl⟩).bind fun report ⟨result, yields, counted⟩ => ?_
    refine (returns_foldlM_count faults repo rest report).imp fun final ⟨outcomes, all, total⟩ => ?_
    exact ⟨result :: outcomes, .cons yields all, by rw [total, counted, List.foldl_cons]⟩

/-- The artifact jobs of a chart set come to results they can come to, and the report is
their count. -/
theorem importArtifacts_returns (faults : StoreFaults) (repo : Repo) (charts : List Chart) :
    Returns (fun report => ∃ outcomes, List.Forall₂ ArtifactJob.Yields (artifactJobs charts) outcomes ∧
        report = outcomes.foldl SyncReport.count .zero)
      (importArtifacts faults repo charts) :=
  returns_foldlM_count faults repo (artifactJobs charts) .zero

end Pass

/-! ## The jobs of a chart set -/

/-- Every version of a chart lands in one of its digest groups. -/
theorem length_flatten_digestGroups (versions : List ChartVersion) :
    (digestGroups versions).flatten.length = versions.length := by
  -- the groups are built by a left fold, so the groups built so far are generalised
  have grown : ∀ (vs : List ChartVersion) (groups : List (List ChartVersion)),
      (vs.foldl (fun groups v => addToGroups v groups) groups).flatten.length =
        groups.flatten.length + vs.length := by
    intro vs
    induction vs with
    | nil => simp
    | cons v rest ih =>
      intro groups
      rw [List.foldl_cons, ih, addToGroups_flatten_length, List.length_cons]
      omega
  simpa [digestGroups] using grown versions []

/-- An icon job is made only for a chart whose icon URL is not blank. -/
theorem icon_mem_artifactJobs {charts : List Chart} {chart : Chart}
    (member : ArtifactJob.icon chart ∈ artifactJobs charts) : (Text.trim chart.icon).isEmpty = false := by
  simp only [artifactJobs, List.mem_append, List.mem_filterMap, List.mem_flatMap, List.mem_map] at member
  rcases member with (⟨c, -, made⟩ | ⟨group, -, versions, -, wrong⟩) | ⟨group, -, versions, -, wrong⟩
  · split at made
    · cases made
    · next shown =>
      cases made
      simpa using shown
  · cases wrong
  · cases wrong

/-- The files jobs of charts, one for each digest group a selection keeps. -/
def filesJobs (charts : List Chart) (pick : List (List ChartVersion) → List (List ChartVersion)) :
    List ArtifactJob :=
  (charts.map fun c => (c, digestGroups c.versions)).flatMap fun x => (pick x.2).map (ArtifactJob.files x.1)

theorem filesJobs_cons (c : Chart) (cs : List Chart)
    (pick : List (List ChartVersion) → List (List ChartVersion)) :
    filesJobs (c :: cs) pick = (pick (digestGroups c.versions)).map (ArtifactJob.files c) ++ filesJobs cs pick :=
  rfl

/-- The files jobs of a chart hold the versions of its groups. -/
theorem sum_versions_files (c : Chart) (groups : List (List ChartVersion)) :
    ((groups.map (ArtifactJob.files c)).map fun job => job.versions.length).sum =
      (groups.map List.length).sum := by
  rw [List.map_map]
  rfl

theorem artifactJobs_eq (charts : List Chart) :
    artifactJobs charts =
      (charts.filterMap fun c =>
        if (Text.trim c.icon).isEmpty then none else some (ArtifactJob.icon c)) ++
        filesJobs charts (List.take 1) ++ filesJobs charts (List.drop 1) := by
  rfl

/-- One icon job for each chart whose icon URL is not blank. -/
theorem countP_isIcon_artifactJobs (charts : List Chart) :
    (artifactJobs charts).countP ArtifactJob.isIcon =
      (charts.filter fun c => !(Text.trim c.icon).isEmpty).length := by
  -- the files jobs fetch no icon
  have filesOnly : ∀ pick, (filesJobs charts pick).countP ArtifactJob.isIcon = 0 := by
    intro pick
    rw [List.countP_eq_zero]
    intro job member
    obtain ⟨_, -, made⟩ := List.mem_flatMap.1 member
    obtain ⟨_, -, rfl⟩ := List.mem_map.1 made
    simp [ArtifactJob.isIcon]
  have icons : ∀ cs : List Chart,
      (cs.filterMap fun c => if (Text.trim c.icon).isEmpty then none else some (ArtifactJob.icon c)).countP
          ArtifactJob.isIcon = (cs.filter fun c => !(Text.trim c.icon).isEmpty).length := by
    intro cs
    induction cs with
    | nil => rfl
    | cons c rest ih =>
      by_cases blank : (Text.trim c.icon).isEmpty
      · rw [List.filterMap_cons, if_pos blank, List.filter_cons, if_neg (by simp [blank])]
        exact ih
      · rw [List.filterMap_cons, if_neg blank, List.filter_cons, if_pos (by simpa using blank)]
        dsimp only
        rw [List.countP_cons, ih, List.length_cons]
        rfl
  rw [artifactJobs_eq, List.countP_append, List.countP_append, icons, filesOnly, filesOnly]
  simp only [Nat.add_zero]

/-- The files jobs of a chart set hold each version of each chart once. -/
theorem sum_versions_artifactJobs (charts : List Chart) :
    ((artifactJobs charts).map fun job => job.versions.length).sum =
      (charts.map fun c => c.versions.length).sum := by
  -- an icon job holds no version
  have iconsNone : ∀ cs : List Chart,
      ((cs.filterMap fun c => if (Text.trim c.icon).isEmpty then none else some (ArtifactJob.icon c)).map
        fun job => job.versions.length).sum = 0 := by
    intro cs
    induction cs with
    | nil => rfl
    | cons c rest ih =>
      by_cases blank : (Text.trim c.icon).isEmpty
      · rw [List.filterMap_cons, if_pos blank]
        exact ih
      · rw [List.filterMap_cons, if_neg blank]
        dsimp only
        rw [List.map_cons, List.sum_cons, ih]
        rfl
  -- the newest group and the older groups of a chart are all its groups
  have groups : ∀ cs : List Chart,
      ((filesJobs cs (List.take 1)).map fun job => job.versions.length).sum +
          ((filesJobs cs (List.drop 1)).map fun job => job.versions.length).sum =
        (cs.map fun c => c.versions.length).sum := by
    intro cs
    induction cs with
    | nil => rfl
    | cons c rest ih =>
      have parts : (((digestGroups c.versions).take 1).map List.length).sum +
          (((digestGroups c.versions).drop 1).map List.length).sum = c.versions.length := by
        rw [← List.sum_append, ← List.map_append, List.take_append_drop, ← List.length_flatten,
          length_flatten_digestGroups]
      rw [filesJobs_cons, filesJobs_cons, List.map_append, List.map_append, List.sum_append,
        List.sum_append, sum_versions_files, sum_versions_files, List.map_cons, List.sum_cons]
      omega
  rw [artifactJobs_eq, List.map_append, List.map_append, List.sum_append, List.sum_append, iconsNone,
    Nat.zero_add, groups]

/-! ## Counting results -/

namespace SyncReport

/-- Two results are counted alike in either order. -/
theorem count_right_comm (report : SyncReport) (a b : JobResult) :
    (report.count a).count b = (report.count b).count a := by
  rcases a with (_ | (_ | ⟨_, _⟩)) | (_ | _) <;> rcases b with (_ | (_ | ⟨_, _⟩)) | (_ | _) <;>
    simp [count, Nat.add_right_comm]

/-- Results counted in any order give one report. -/
theorem foldl_count_perm {received outcomes : List JobResult} (arrived : received.Perm outcomes)
    (report : SyncReport) :
    received.foldl count report = outcomes.foldl count report :=
  arrived.foldl_eq' (fun x _ y _ z => count_right_comm z x y) report

/-- What counting one result adds: one icon imported or failed for an icon job, one
failed files job, or the versions of a files job that came through. -/
theorem count_step {job : ArtifactJob} {result : JobResult} (yields : job.Yields result)
    (shown : ∀ chart, job = .icon chart → (Text.trim chart.icon).isEmpty = false)
    (report : SyncReport) :
    (report.count result).iconsImported + (report.count result).iconsFailed =
        report.iconsImported + report.iconsFailed + (if job.isIcon then 1 else 0) ∧
      (report.count result).filesFailed =
        report.filesFailed + (if !job.isIcon && result.failed then 1 else 0) ∧
      (report.count result).filesImported + (report.count result).filesPresent =
        report.filesImported + report.filesPresent + (if result.failed then 0 else job.versions.length) := by
  cases job with
  | icon chart =>
    rcases result with (_ | (_ | ⟨_, _⟩)) | _
    · simp [count, ArtifactJob.isIcon, JobResult.failed]
      omega
    · -- a job for a chart with an icon URL finds an icon
      have blank : (Text.trim chart.icon).isEmpty = true := yields
      rw [shown chart rfl] at blank
      cases blank
    · simp [count, ArtifactJob.isIcon, JobResult.failed, ArtifactJob.versions]
      omega
    · exact yields.elim
  | files chart versions =>
    rcases result with _ | (_ | outcome)
    · exact yields.elim
    · simp [count, ArtifactJob.isIcon, JobResult.failed]
    · have counted : outcome.imported + outcome.alreadyPresent = versions.length := yields
      simp [count, ArtifactJob.isIcon, JobResult.failed, ArtifactJob.versions]
      omega

/-- Counting the results of jobs, one each: every icon job counts once as imported or
failed, every failed files job once, and every files job that came through counts its
versions. -/
theorem foldl_count_jobs {jobs : List ArtifactJob} {outcomes : List JobResult}
    (yields : List.Forall₂ ArtifactJob.Yields jobs outcomes)
    (shown : ∀ chart, .icon chart ∈ jobs → (Text.trim chart.icon).isEmpty = false)
    (report : SyncReport) :
    (outcomes.foldl count report).iconsImported + (outcomes.foldl count report).iconsFailed =
        report.iconsImported + report.iconsFailed + jobs.countP ArtifactJob.isIcon ∧
      (outcomes.foldl count report).filesFailed =
        report.filesFailed + (jobs.zip outcomes).countP (fun p => !p.1.isIcon && p.2.failed) ∧
      (outcomes.foldl count report).filesImported + (outcomes.foldl count report).filesPresent =
        report.filesImported + report.filesPresent +
          (((jobs.zip outcomes).filter fun p => !p.2.failed).map fun p => p.1.versions.length).sum := by
  -- one result at a time, from the report the ones before it left
  induction yields generalizing report with
  | nil => simp
  | @cons job result jobs outcomes first rest ih =>
    obtain ⟨icons, failed, done⟩ :=
      count_step first (fun chart same => shown chart (same ▸ List.mem_cons_self)) report
    obtain ⟨icons', failed', done'⟩ :=
      ih (fun chart member => shown chart (List.mem_cons_of_mem _ member)) (report.count result)
    simp only [List.foldl_cons, List.zip_cons_cons, List.countP_cons, List.filter_cons]
    refine ⟨by omega, by omega, ?_⟩
    rw [done', done]
    cases result.failed with
    | false =>
      simp only [Bool.not_false, if_true, if_false, List.map_cons, List.sum_cons, Bool.false_eq_true]
      omega
    | true => simp

end SyncReport

/-- A sum over the kept elements of a list is the sum over all when the dropped ones count
nothing. -/
theorem sum_map_filter_of_zero {α : Type} (l : List α) (keep : α → Bool) (f : α → Nat)
    (nothing : ∀ a ∈ l, keep a = false → f a = 0) : ((l.filter keep).map f).sum = (l.map f).sum := by
  induction l with
  | nil => rfl
  | cons a rest ih =>
    have rest' := ih fun b member => nothing b (List.mem_cons_of_mem _ member)
    by_cases kept : keep a
    · simp [kept, rest']
    · simp [kept, rest', nothing a List.mem_cons_self (by simpa using kept)]

/-- What a report says of the artifact jobs of a chart set, given the results they came to:
the report is the same whatever order the results arrive in; it counts the charts; every
chart with an icon URL once among the icons imported and failed; every files job that
failed once; and every version of a files job that came through once, as imported or
present, so every version of every chart when no files job failed. -/
structure SyncReport.Accounts (charts : List Chart) (outcomes : List JobResult) (report : SyncReport) :
    Prop where
  anyOrder : ∀ received : List JobResult, received.Perm outcomes →
    { received.foldl SyncReport.count .zero with
      charts := charts.length, chartsRemoved := report.chartsRemoved } = report
  counted : report.charts = charts.length
  icons : report.iconsImported + report.iconsFailed =
    (charts.filter fun c => !(Text.trim c.icon).isEmpty).length
  filesFailed : report.filesFailed =
    ((artifactJobs charts).zip outcomes).countP fun p => !p.1.isIcon && p.2.failed
  filesDone : report.filesImported + report.filesPresent =
    ((((artifactJobs charts).zip outcomes).filter fun p => !p.2.failed).map
      fun p => p.1.versions.length).sum
  allFiles : report.filesFailed = 0 →
    report.filesImported + report.filesPresent = (charts.map fun c => c.versions.length).sum

/-- A pass's report is the count of the results of its chart set's artifact jobs, each one a
job can come to, with the charts counted and the charts removed set. -/
def SyncReport.Tallied (charts : List Chart) (report : SyncReport) : Prop :=
  ∃ outcomes, List.Forall₂ ArtifactJob.Yields (artifactJobs charts) outcomes ∧
    report = { outcomes.foldl SyncReport.count .zero with
      charts := charts.length, chartsRemoved := report.chartsRemoved }

/-- The count of results that the jobs of a chart set can come to accounts for the jobs. -/
theorem SyncReport.Tallied.accounts {charts : List Chart} {outcomes : List JobResult}
    {report : SyncReport} (yields : List.Forall₂ ArtifactJob.Yields (artifactJobs charts) outcomes)
    (counted : report = { outcomes.foldl SyncReport.count .zero with
      charts := charts.length, chartsRemoved := report.chartsRemoved }) :
    report.Accounts charts outcomes := by
  obtain ⟨icons, failed, done⟩ :=
    SyncReport.foldl_count_jobs yields (fun _ member => icon_mem_artifactJobs member) .zero
  rw [countP_isIcon_artifactJobs] at icons
  have lengths := yields.length_eq
  -- the report's counts are those of the fold, whose start counts nothing
  have fields : report.iconsImported = (outcomes.foldl SyncReport.count .zero).iconsImported ∧
      report.iconsFailed = (outcomes.foldl SyncReport.count .zero).iconsFailed ∧
      report.filesFailed = (outcomes.foldl SyncReport.count .zero).filesFailed ∧
      report.filesImported = (outcomes.foldl SyncReport.count .zero).filesImported ∧
      report.filesPresent = (outcomes.foldl SyncReport.count .zero).filesPresent := by
    rw [counted]
    exact ⟨rfl, rfl, rfl, rfl, rfl⟩
  obtain ⟨iconsImported, iconsFailed, filesFailed, filesImported, filesPresent⟩ := fields
  have zero : SyncReport.zero.iconsImported = 0 ∧ SyncReport.zero.iconsFailed = 0 ∧
      SyncReport.zero.filesFailed = 0 ∧ SyncReport.zero.filesImported = 0 ∧
      SyncReport.zero.filesPresent = 0 := ⟨rfl, rfl, rfl, rfl, rfl⟩
  obtain ⟨noIcons, noFailedIcons, noFailed, noImported, noPresent⟩ := zero
  refine ⟨fun received arrived => ?_, by rw [counted], by omega, by omega, by omega, fun none => ?_⟩
  · rw [SyncReport.foldl_count_perm arrived]
    exact counted.symm
  · -- no files job failed, so every files job came through, and icon jobs hold no version
    have through : ∀ p ∈ (artifactJobs charts).zip outcomes, (!p.2.failed) = false →
        p.1.versions.length = 0 := by
      intro p member failedHere
      have noFiles : ((artifactJobs charts).zip outcomes).countP
          (fun p => !p.1.isIcon && p.2.failed) = 0 := by omega
      have notCounted := List.countP_eq_zero.1 noFiles p member
      cases job : p.1 with
      | icon chart => rfl
      | files chart versions =>
        simp [job, ArtifactJob.isIcon] at notCounted
        simp [notCounted] at failedHere
    rw [sum_map_filter_of_zero _ _ _ through] at done
    have jobsOnly : ((artifactJobs charts).zip outcomes).map (fun p => p.1.versions.length) =
        (artifactJobs charts).map fun job => job.versions.length :=
      calc ((artifactJobs charts).zip outcomes).map (fun p => p.1.versions.length)
          _ = (((artifactJobs charts).zip outcomes).map Prod.fst).map fun job => job.versions.length := by
            rw [List.map_map]
            rfl
          _ = (artifactJobs charts).map fun job => job.versions.length := by
            rw [List.map_fst_zip lengths.le]
    rw [jobsOnly, sum_versions_artifactJobs] at done
    omega

/-! ## The report of a pass -/

namespace Pass

open Online

/-- The writes of a pass once its charts are built report the count of their jobs. -/
theorem returns_syncTail (faults : StoreFaults) (repo : Repo) (charts : List Chart) (checksum : String)
    (now : Instant) :
    Returns (fun outcome => ∀ report, outcome = .synced report → report.Tallied charts) (do
        importCharts faults repo charts
        let removed ← removeMissing faults repo.name (charts.map Chart.id)
        let report ← importArtifacts faults repo charts
        updateLastCheck faults repo checksum now
        pure (SyncOutcome.synced { report with charts := charts.length, chartsRemoved := removed }) :
          Pass SyncOutcome) := by
  refine (returns_trivial _).bind fun _ _ => (returns_trivial _).bind fun removed _ => ?_
  refine (importArtifacts_returns faults repo charts).bind fun counted ⟨outcomes, yields, total⟩ => ?_
  refine (returns_trivial _).bind fun _ _ => returns_pure ?_
  intro report same
  cases same
  exact ⟨outcomes, yields, by rw [total]⟩

variable (fetch : Fetch) (t : Traced Catalog)

/-- A pass that reports a sync read the index it downloaded, and its report counts the
artifact jobs of the index's charts. -/
theorem syncRepoUnder_synced {faults : StoreFaults} {options : SyncOptions} {now : Instant}
    {repo : Repo} {report : SyncReport}
    (synced : ((syncRepoUnder faults options now repo).exec fetch t).1 = .ok (.synced report)) :
    ∃ data index, ((fetchIndex repo).exec fetch t).1 = .ok data ∧ parseIndex data = .ok index ∧
      report.Tallied (chartsFromIndex index repo) := by
  unfold syncRepoUnder at synced
  rw [Online.exec_bind] at synced
  rcases fetched : (fetchIndex repo).exec fetch t with ⟨e | data, t₁⟩
  · rw [fetched] at synced
    cases synced
  rw [fetched] at synced
  dsimp only at synced
  rw [catalog, Online.exec_bind, Online.exec_current] at synced
  dsimp only at synced
  split at synced
  · cases synced
  rw [Online.exec_bind, Online.exec_ofOutcome] at synced
  rcases parsed : parseIndex data with e | index
  · rw [parsed] at synced
    cases synced
  rw [parsed] at synced
  dsimp only at synced
  refine ⟨data, index, rfl, parsed, ?_⟩
  have tail := returns_syncTail faults repo (chartsFromIndex index repo) (indexChecksum data) now
  split at synced
  · rw [Online.exec_bind, Online.exec_reading] at synced
    rcases stored : t₁.state.listCharts repo.name with e | listed
    · rw [stored] at synced
      cases synced
    rw [stored] at synced
    dsimp only at synced
    split at synced
    · cases synced
    · exact tail fetch _ _ synced report rfl
  · exact tail fetch _ _ synced report rfl

end Pass

/-- Whatever the worker count, whatever each artifact job comes to and in whatever order the
results arrive, a pass that reports a sync read the index it downloaded, and its report
accounts for the artifact jobs of the index's charts: the charts counted, every chart with
an icon URL once among the icons imported and failed, every failed files job once, and
every version of a files job that came through once, as imported or present. -/
theorem sync_report_counts_every_job (fetch : Fetch) (t : Traced Catalog) (faults : StoreFaults)
    (options : SyncOptions) (now : Instant) (repo : Repo) (report : SyncReport)
    (synced : ((Pass.syncRepoUnder faults options now repo).exec fetch t).1 = .ok (.synced report)) :
    ∃ data index, ((Pass.fetchIndex repo).exec fetch t).1 = .ok data ∧ parseIndex data = .ok index ∧
      ∃ outcomes, List.Forall₂ ArtifactJob.Yields (artifactJobs (chartsFromIndex index repo)) outcomes ∧
        report.Accounts (chartsFromIndex index repo) outcomes := by
  obtain ⟨data, index, fetched, parsed, outcomes, yields, counted⟩ :=
    Pass.syncRepoUnder_synced fetch t synced
  exact ⟨data, index, fetched, parsed, outcomes, yields, SyncReport.Tallied.accounts yields counted⟩

/-- A pass with no worker over an index of one chart whose only version has no archive. -/
theorem sync_report_counts_every_job_unarchived :
    let repo : Repo := ⟨"test", "default", "http://r.test/charts", none⟩
    let body := "apiVersion: v1\nentries:\n  nginx:\n  - name: nginx\n    version: \"1\"\n".toUTF8
    let fetch : Fetch := fun request =>
      if request.url == "http://r.test/charts/index.yaml" then .ok ⟨200, none, body⟩
      else .error (.transport "connection refused")
    let report : SyncReport := ⟨1, 0, 0, 0, 1, 0, 0⟩
    ((Pass.syncRepoUnder .none ⟨0, false⟩ ⟨0, 0, 0⟩ repo).exec fetch ⟨.emptyRelational, #[]⟩).1 =
        .ok (.synced report) ∧
      ∃ data index, ((Pass.fetchIndex repo).exec fetch ⟨.emptyRelational, #[]⟩).1 = .ok data ∧
        parseIndex data = .ok index ∧
        ∃ outcomes, List.Forall₂ ArtifactJob.Yields (artifactJobs (chartsFromIndex index repo)) outcomes ∧
          report.Accounts (chartsFromIndex index repo) outcomes := by
  intro repo body fetch report
  have synced : ((Pass.syncRepoUnder .none ⟨0, false⟩ ⟨0, 0, 0⟩ repo).exec fetch
      ⟨.emptyRelational, #[]⟩).1 = .ok (.synced report) := by
    decide +kernel
  exact ⟨synced, sync_report_counts_every_job fetch _ .none ⟨0, false⟩ ⟨0, 0, 0⟩ repo report synced⟩

end ChartCatalog
