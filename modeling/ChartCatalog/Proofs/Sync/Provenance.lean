import ChartCatalog.Proofs.Sync.Files

/-!
# Where stored chart files come from

A files job skips a version whose files id already holds a record of the repository,
namespace and digest, whichever pass wrote it (`Pass.FilesStored`). Over a run that is still
a record of the version: every record the store holds was written by a pass of the run,
under the files id of a version of a chart of the index that pass downloaded, from the
chart's members in the archive of a version of that chart with the same digest
(`Catalog.FilesSourced`, `stored_files_come_from_passes_of_the_run`).

Every write of chart files is a files job's, of a record built from the archive it fetched,
so a pass keeps its records sourced under any fault plan, whether it fails, skips or syncs
(`Pass.leads_syncRepoUnder_sourced`). Imports, removals, checkpoints and icons leave the
records, and deleting a repository only drops some.
-/

set_option autoImplicit false

namespace ChartCatalog

open Http

/-- A chart of the index a repository answers against a web. -/
def IndexLists (fetch : Fetch) (repo : Repo) (chart : Chart) : Prop :=
  ∃ url response index, Repository.indexUrl repo.url = .ok url ∧
    ((fetch ⟨url, repo.authHeader⟩).bind fun r => r.checked url) = .ok response ∧
    parseIndex response.body = .ok index ∧ chart ∈ chartsFromIndex index repo

/-- A chart of the index that a pass of a run over a repository downloaded against a web. -/
def ListedInRun (steps : List RunStep) (fetch : Fetch) (repo : Repo) (chart : Chart) : Prop :=
  (∃ faults options now, RunStep.sync fetch faults options now repo ∈ steps) ∧
    IndexLists fetch repo chart

/-- A chart listed in a run is listed in every longer run. -/
theorem ListedInRun.append {steps : List RunStep} {fetch : Fetch} {repo : Repo} {chart : Chart}
    (listed : ListedInRun steps fetch repo chart) (more : List RunStep) :
    ListedInRun (steps ++ more) fetch repo chart := by
  obtain ⟨⟨faults, options, now, member⟩, indexed⟩ := listed
  exact ⟨⟨faults, options, now, List.mem_append_left more member⟩, indexed⟩

/-- A chart of the index that the last pass of a run downloaded is listed in the run. -/
theorem ListedInRun.last {steps : List RunStep} {fetch : Fetch} {faults : StoreFaults}
    {options : SyncOptions} {now : Instant} {repo : Repo} {chart : Chart}
    (indexed : IndexLists fetch repo chart) :
    ListedInRun (steps ++ [.sync fetch faults options now repo]) fetch repo chart :=
  ⟨⟨faults, options, now, List.mem_append_right steps List.mem_cons_self⟩, indexed⟩

/-! ## Records with a source -/

namespace Catalog

/-- Every chart files record of a catalog was downloaded, against a web and for a repository
and a chart that `source` admits, for a version of the chart, and is stored under that
version's files id. -/
def FilesSourced (source : Fetch → Repo → Chart → Prop) (c : Catalog) : Prop :=
  ∀ filesId f, c.getFiles filesId = .ok (some f) →
    ∃ fetch repo chart version, source fetch repo chart ∧ version ∈ chart.versions ∧
      filesId = chartFilesId chart.id version.version ∧ Pass.Downloaded fetch repo chart version f

/-- What the writes of a pass keep: a well-formed catalog whose records are sourced. -/
structure WellSourced (source : Fetch → Repo → Chart → Prop) (c : Catalog) : Prop where
  wellFormed : c.WellFormed
  sourced : c.FilesSourced source

variable {source source' : Fetch → Repo → Chart → Prop} {c c' : Catalog}

/-- An import writes charts only: every chart files record stays. -/
theorem getFiles_importCharts {repo : Repo} {charts : List Chart}
    (imported : c.importCharts repo charts = .ok c') : c'.getFiles = c.getFiles := by
  cases c with
  | relational r =>
    cases imported
    rfl
  | documents d =>
    simp only [Catalog.importCharts, DocumentCatalog.importCharts_eq, Except.map,
      Except.ok.injEq] at imported
    rw [← imported]
    rfl

theorem FilesSourced.mono (sourced : c.FilesSourced source)
    (wider : ∀ fetch repo chart, source fetch repo chart → source' fetch repo chart) :
    c.FilesSourced source' := by
  intro filesId f stored
  obtain ⟨fetch, repo, chart, version, admitted, rest⟩ := sourced filesId f stored
  exact ⟨fetch, repo, chart, version, wider _ _ _ admitted, rest⟩

theorem FilesSourced.of_getFiles_eq (sourced : c.FilesSourced source)
    (same : c'.getFiles = c.getFiles) : c'.FilesSourced source := by
  rw [FilesSourced, same]
  exact sourced

/-- An empty catalog of either backend holds no chart files. -/
theorem filesSourced_empty (fresh : c = .emptyRelational ∨ c = .emptyDocuments) :
    c.FilesSourced source := by
  intro filesId f stored
  rcases fresh with rfl | rfl <;> cases stored

/-- Deleting a repository only drops chart files records. -/
theorem FilesSourced.deleteRepo (wf : c.WellFormed) (sourced : c.FilesSourced source)
    (repoName : String) : (c.deleteRepo repoName).FilesSourced source := by
  intro filesId f stored
  obtain ⟨files, read, read'⟩ := (wf.deleteRepo repoName).2.files filesId
  rw [read'] at stored
  have kept := (Option.filter_eq_some_iff.1 (Except.ok.inj stored)).1
  exact sourced filesId f (by rw [read, kept])

/-- Writing a record downloaded for a version of a chart that the source admits keeps the
records sourced: the record names the version's files id. -/
theorem FilesSourced.insertFiles (wf : c.WellFormed) (sourced : c.FilesSourced source)
    {fetch : Fetch} {repo : Repo} {chart : Chart} {version : ChartVersion} {f : ChartFiles}
    (admitted : source fetch repo chart) (listed : version ∈ chart.versions)
    (downloaded : Pass.Downloaded fetch repo chart version f) {chartId : String}
    (written : c.insertFiles chartId f = .ok c') : c'.FilesSourced source := by
  intro filesId g stored
  rw [wf.getFiles_insertFiles written] at stored
  split at stored
  · next same =>
    cases stored
    exact ⟨fetch, repo, chart, version, admitted, listed, same.trans downloaded.record.1, downloaded⟩
  · exact sourced filesId g stored

theorem WellSourced.of_filesKept (holds : c.WellSourced source) (kept : c.FilesKept c') :
    c'.WellSourced source := by
  obtain ⟨wf', same⟩ := kept holds.wellFormed
  exact ⟨wf', holds.sourced.of_getFiles_eq same⟩

end Catalog

/-! ## What a pass writes -/

namespace Pass

open Online

variable {fetch : Fetch} {repo : Repo} {source : Fetch → Repo → Chart → Prop}

theorem leads_insertFiles_sourced (faults : StoreFaults) {chart : Chart} {version : ChartVersion}
    {f : ChartFiles} (admitted : source fetch repo chart) (listed : version ∈ chart.versions)
    (downloaded : Downloaded fetch repo chart version f) :
    Leads fetch (Catalog.WellSourced source) (insertFiles faults chart.id f)
      (fun _ => Catalog.WellSourced source) (Catalog.WellSourced source) := by
  refine leads_storeWrite (fun c _ c' holds written => ?_) fun _ holds => holds
  have inserted := map_unit_eq_ok.1 written
  exact ⟨(Catalog.artifactsOnly_insertFiles inserted holds.wellFormed).1,
    holds.sourced.insertFiles holds.wellFormed admitted listed downloaded inserted⟩

/-- A files job over versions of a chart that share one digest writes only records
downloaded for them. -/
theorem leads_importFilesUnder_sourced (faults : StoreFaults) {chart : Chart}
    {versions : List ChartVersion} (admitted : source fetch repo chart)
    (within : ∀ v ∈ versions, v ∈ chart.versions)
    (alike : ∀ u ∈ versions, ∀ w ∈ versions, u.digest = w.digest) :
    Leads fetch (Catalog.WellSourced source) (importFilesUnder faults repo chart versions)
      (fun _ => Catalog.WellSourced source) (Catalog.WellSourced source) := by
  unfold importFilesUnder
  refine (leads_current (Q := fun _ s => Catalog.WellSourced source s) fun _ holds => holds).bind
    fun c => ?_
  dsimp only
  split
  · exact leads_pure fun _ holds => holds
  · next filesId first rest firstMissing =>
    have firstListed : first ∈ versions :=
      (mem_missingFiles.1 (firstMissing ▸ List.mem_cons_self : (filesId, first) ∈ _)).1
    refine leads_ofOutcome_bind (fun url located => ?_) fun _ holds => holds
    refine leads_getChecked_bind (fun response answered => ?_) fun _ holds => holds
    refine leads_ofOutcome_bind (fun files extracted => ?_) fun _ holds => holds
    -- every missing version gets a record from the archive of the first one
    refine (leads_forM (I := fun _ => Catalog.WellSourced source)
      (f := fun (x : String × ChartVersion) => insertFiles faults chart.id (filesRecord repo files x.1 x.2))
      fun _ x inMissing => ?_).bind fun _ => leads_pure fun _ holds => holds
    obtain ⟨listed, named, -⟩ := mem_missingFiles.1 inMissing
    exact leads_insertFiles_sourced faults admitted (within _ listed) ⟨first, within _ firstListed,
      alike _ firstListed _ listed, url, response, files, located, answered, extracted, by rw [named]⟩

/-- An artifact job of a chart that the source admits keeps the records sourced, whatever it
comes to; an icon job leaves them. -/
theorem leads_runJob_sourced (faults : StoreFaults) {charts : List Chart} {job : ArtifactJob}
    (valid : job ∈ artifactJobs charts) (admitted : ∀ chart ∈ charts, source fetch repo chart) :
    Leads fetch (Catalog.WellSourced source) (runJob faults repo job)
      (fun _ => Catalog.WellSourced source) (Catalog.WellSourced source) := by
  cases job with
  | icon chart =>
    have kept : Leads fetch (Catalog.WellSourced source) (importIconUnder faults repo chart) _ _ :=
      Leads.of_keeps (keeps_importIconUnder Catalog.filesKept_updateIcon faults repo chart)
        fun _ _ holds kept => holds.of_filesKept kept
    exact leads_tryCatch (kept.bind fun _ => leads_pure fun _ holds => holds)
      fun _ => leads_pure fun _ holds => holds
  | files chart group =>
    obtain ⟨member, grouped⟩ := files_mem_artifactJobs.1 valid
    have within : ∀ v ∈ group, v ∈ chart.versions := fun v inGroup =>
      ((digestGroups_spec chart.versions).1 v).1 (List.mem_flatten.2 ⟨group, grouped, inGroup⟩)
    exact leads_tryCatch ((leads_importFilesUnder_sourced faults (admitted chart member) within
      ((digestGroups_spec chart.versions).2 group grouped)).bind fun _ =>
        leads_pure fun _ holds => holds) fun _ => leads_pure fun _ holds => holds

theorem leads_importArtifacts_sourced (faults : StoreFaults) {charts : List Chart}
    (admitted : ∀ chart ∈ charts, source fetch repo chart) :
    Leads fetch (Catalog.WellSourced source) (importArtifacts faults repo charts)
      (fun _ => Catalog.WellSourced source) (Catalog.WellSourced source) :=
  leads_foldlM (fun _ _ valid => (leads_runJob_sourced faults valid admitted).bind fun _ =>
    leads_pure fun _ holds => holds) SyncReport.zero

/-- The writes of a pass once its charts are built keep the records sourced, whether they
come through or fail, when the source admits the charts. -/
theorem leads_syncTail_sourced {charts : List Chart}
    (owned : ∀ chart ∈ charts, chart.repo = repo.reference ∧ chart.TimesValid)
    (admitted : ∀ chart ∈ charts, source fetch repo chart) (faults : StoreFaults)
    (checksum : String) (now : Instant) (c₀ : Catalog) :
    Leads fetch (fun c => c = c₀ ∧ c.WellSourced source) (do
        importCharts faults repo charts
        let removed ← removeMissing faults repo.name (charts.map Chart.id)
        let report ← importArtifacts faults repo charts
        updateLastCheck faults repo checksum now
        pure (SyncOutcome.synced { report with charts := charts.length, chartsRemoved := removed }) :
          Pass SyncOutcome)
      (fun _ c => c.FilesSourced source) fun c => c.FilesSourced source := by
  refine (leads_storeWrite
    (Q := fun _ c => c₀.WellSourced source ∧ c₀.importCharts repo charts = .ok c)
    (fun c _ c' pre written => ?imported) fun _ pre => pre.2.sourced).bind fun _ => ?_
  case imported =>
    obtain ⟨rfl, holds⟩ := pre
    exact ⟨holds, map_unit_eq_ok.1 written⟩
  -- the import and the removal make the catalog's sync, which keeps the chart files
  refine (leads_storeWrite (Q := fun _ c => c.WellSourced source)
    (fun c removed c' pre written => ?removed) fun c pre => ?failed).bind fun removed => ?_
  case removed =>
    obtain ⟨holds, imported⟩ := pre
    have synced : c₀.sync repo charts = .ok (removed, c') := by
      rw [← Except.ok.inj written]
      simp [Catalog.sync, imported]
    obtain ⟨_, _, synced', wf', -⟩ := holds.wellFormed.sync repo charts owned
    rw [synced] at synced'
    cases synced'
    exact ⟨wf', holds.sourced.of_getFiles_eq (Catalog.getFiles_sync synced)⟩
  case failed =>
    obtain ⟨holds, imported⟩ := pre
    exact holds.sourced.of_getFiles_eq (Catalog.getFiles_importCharts imported)
  refine ((leads_importArtifacts_sourced faults admitted).conseq (fun _ holds => holds)
    (fun _ _ holds => holds) fun _ holds => holds.sourced).bind fun counted => ?_
  refine (leads_storeWrite (Q := fun _ c => c.FilesSourced source)
    (fun c _ c' holds written => holds.sourced.of_getFiles_eq
      (Catalog.getFiles_updateLastCheck (map_unit_eq_ok.1 written)))
    fun _ holds => holds.sourced).bind fun _ => leads_pure fun _ sourced => sourced

/-- A pass, under any fault plan, from a well-formed catalog whose records are sourced by a
source that admits the charts of the index the repository answers, leaves the records
sourced, whatever it comes to. -/
theorem leads_syncRepoUnder_sourced (faults : StoreFaults) (options : SyncOptions) (now : Instant)
    (admitted : ∀ chart, IndexLists fetch repo chart → source fetch repo chart) :
    Leads fetch (Catalog.WellSourced source) (syncRepoUnder faults options now repo)
      (fun _ c => c.FilesSourced source) fun c => c.FilesSourced source := by
  unfold syncRepoUnder
  refine ((leads_fetchIndex (P := Catalog.WellSourced source)).conseq (fun _ holds => holds)
    (fun _ _ post => post) fun _ holds => holds.sourced).bind fun data => Leads.assume fun answer => ?_
  obtain ⟨url, response, located, answered, rfl⟩ := answer
  dsimp only
  refine (leads_current (Q := fun (c s : Catalog) => s = c ∧ s.WellSourced source)
    fun _ holds => ⟨rfl, holds⟩).bind fun c => ?_
  split
  · exact leads_pure fun _ pre => pre.2.sourced
  refine leads_ofOutcome_bind (fun index parsed => ?_) fun _ pre => pre.2.sourced
  -- the charts of the index are the ones the source admits
  have tail : Leads fetch _ _ _ _ := leads_syncTail_sourced
    (fun _ member => (chartsFromIndex_spec member).1)
    (fun chart member => admitted chart ⟨url, response, index, located, answered, parsed, member⟩)
    faults (indexChecksum response.body) now c
  split
  · refine (leads_reading (Q := fun _ s => s = c ∧ s.WellSourced source) (fun _ _ pre _ => pre)
      fun _ pre => pre.2.sourced).bind fun stored => ?_
    split
    · exact (leads_throw (Q := fun _ _ => False) fun _ pre => pre.2.sourced).bind fun _ =>
        leads_absurd _
    · exact tail
  · exact tail

end Pass

/-! ## Runs -/

namespace Ledgered

variable {repos : List Repo}

/-- One call of a run keeps the catalog well formed, with its records sourced by the passes
so far and this call. -/
theorem wellSourced_step {done : List RunStep} {s : Ledgered}
    (holds : s.catalog.WellSourced (ListedInRun done)) {call : RunStep}
    (allowed : call.Allowed repos) : (s.step call).catalog.WellSourced (ListedInRun (done ++ [call])) := by
  have wider : ∀ fetch repo chart, ListedInRun done fetch repo chart →
      ListedInRun (done ++ [call]) fetch repo chart := fun _ _ _ listed => listed.append [call]
  cases call with
  | delete repoName =>
    exact ⟨(holds.wellFormed.deleteRepo repoName).1,
      (holds.sourced.deleteRepo holds.wellFormed repoName).mono wider⟩
  | sync fetch faults options now repo =>
    obtain ⟨-, valid, spared⟩ := allowed
    -- the pass keeps the records sourced whatever it comes to, with itself among the passes
    have sourced : (s.step (.sync fetch faults options now repo)).catalog.FilesSourced
        (ListedInRun (done ++ [.sync fetch faults options now repo])) := by
      rw [step_sync_catalog, Online.run_eq_exec]
      exact (Pass.leads_syncRepoUnder_sourced faults options now fun _ => ListedInRun.last).final
        ⟨s.catalog, #[]⟩ ⟨holds.wellFormed, holds.sourced.mono wider⟩
    -- and leaves the catalog as it was, or synced to an index and well formed
    rcases step_sync_cases spared options now repo s with same | ⟨data, index, -, -, synced⟩
    · rw [same] at sourced ⊢
      exact ⟨holds.wellFormed, sourced⟩
    · -- naming the catalog the pass leaves keeps the pass itself from being unfolded
      generalize (s.step (.sync fetch faults options now repo)).catalog = after at synced sourced ⊢
      exact ⟨(synced.spec holds.wellFormed valid fun _ member => (chartsFromIndex_spec member).1).1,
        sourced⟩

/-- A run keeps the catalog well formed with its records sourced by its passes: by
induction on its calls, from whatever state it starts. -/
theorem wellSourced_run {done : List RunStep} {s : Ledgered}
    (holds : s.catalog.WellSourced (ListedInRun done)) {steps : List RunStep}
    (allowed : ∀ call ∈ steps, call.Allowed repos) :
    (s.run steps).catalog.WellSourced (ListedInRun (done ++ steps)) := by
  induction steps generalizing s done with
  | nil =>
    rw [List.append_nil]
    exact holds
  | cons call rest ih =>
    have first := wellSourced_step holds (allowed call List.mem_cons_self)
    have later := ih first fun next member => allowed next (List.mem_cons_of_mem _ member)
    rw [List.append_assoc, List.singleton_append] at later
    exact later

end Ledgered

/-- In every state of a run from an empty catalog of either backend, under fault plans that
spare the completion of a sync and at valid instants, every chart files record was written by
a pass of the run: under the files id of a version of a chart of the index that pass
downloaded, from the chart's members in the archive of a version of that chart with the same
digest, fetched with the repository's credentials. So a further pass that reports a sync with
no failed files job, over an index whose files ids are apart, leaves every version of the
index's charts a record of the repository, namespace and digest under its files id that it or
an earlier pass of the run downloaded for a version with that files id. -/
theorem stored_files_come_from_passes_of_the_run (repos : List Repo) (c : Catalog)
    (fresh : c = .emptyRelational ∨ c = .emptyDocuments) (steps : List RunStep)
    (allowed : ∀ call ∈ steps, call.Allowed repos) :
    let s := (Ledgered.start c).run steps
    s.catalog.FilesSourced (ListedInRun steps) ∧
      ∀ fetch faults options now repo report,
        let ran := (Pass.syncRepoUnder faults options now repo).run fetch s.catalog
        ran.1 = .ok (.synced report) → report.filesFailed = 0 →
        ∃ url response index, Repository.indexUrl repo.url = .ok url ∧
          ((fetch ⟨url, repo.authHeader⟩).bind fun r => r.checked url) = .ok response ∧
          parseIndex response.body = .ok index ∧
          (FilesIdsApart (chartsFromIndex index repo) →
            ∀ chart ∈ chartsFromIndex index repo, ∀ version ∈ chart.versions, ∃ f,
              ran.2.state.getFiles (chartFilesId chart.id version.version) = .ok (some f) ∧
              f.repo.name = repo.name ∧ f.repo.ns = repo.ns ∧ f.digest = version.digest ∧
              ∃ fetch' repo' chart' version',
                ListedInRun (steps ++ [.sync fetch faults options now repo]) fetch' repo' chart' ∧
                version' ∈ chart'.versions ∧
                chartFilesId chart'.id version'.version = chartFilesId chart.id version.version ∧
                Pass.Downloaded fetch' repo' chart' version' f) := by
  intro s
  have start : (Ledgered.start c).catalog.WellSourced (ListedInRun []) := by
    refine ⟨?_, Catalog.filesSourced_empty fresh⟩
    rcases fresh with same | same <;> rw [Ledgered.start, same]
    · exact Catalog.WellFormed.emptyRelational
    · exact Catalog.WellFormed.emptyDocuments
  have holds : s.catalog.WellSourced (ListedInRun steps) := Ledgered.wellSourced_run start allowed
  refine ⟨holds.sourced, fun fetch faults options now repo report synced complete => ?_⟩
  rw [Online.run_eq_exec] at synced ⊢
  -- the pass keeps the records sourced, with itself among the passes
  have admitted : ∀ chart, IndexLists fetch repo chart →
      ListedInRun (steps ++ [.sync fetch faults options now repo]) fetch repo chart :=
    fun _ => ListedInRun.last
  have sourced := (Pass.leads_syncRepoUnder_sourced faults options now admitted ⟨s.catalog, #[]⟩ ⟨holds.wellFormed, holds.sourced.mono fun _ _ _ listed => listed.append _⟩).1
      _ synced
  -- and files every version of the index, each under its files id
  obtain ⟨url, response, index, located, answered, parsed, stored⟩ :=
    (Pass.leads_syncRepoUnder faults options now s.catalog ⟨s.catalog, #[]⟩
      ⟨rfl, holds.wellFormed⟩).1 _ synced report rfl complete
  refine ⟨url, response, index, located, answered, parsed, fun apart chart member version listed => ?_⟩
  obtain ⟨f, read, name, ns, digest, -⟩ := stored apart chart member version listed
  obtain ⟨fetch', repo', chart', version', source, listed', sameId, downloaded⟩ := sourced _ f read
  exact ⟨f, read, name, ns, digest, fetch', repo', chart', version', source, listed', sameId.symm,
    downloaded⟩

end ChartCatalog
