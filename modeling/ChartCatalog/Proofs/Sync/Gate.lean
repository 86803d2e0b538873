import ChartCatalog.Proofs.Sync.Ledger
import ChartCatalog.Proofs.Catalog.Build

/-!
# The two early exits of a pass

A pass over a repository downloads the repository's index first. It stops with a skip when
the checkpoint already holds the index's checksum, before reading the index; the skip
sends no other request and writes nothing. Whether it skips is read from the checkpoint
alone: on a well-formed catalog of either backend whose checkpoint reads back, the pass
skips exactly when the checkpoint holds the checksum (`Catalog.WellFormed.alreadyProcessed_iff`).
A pass that syncs records the checksum last, so a second pass over the same index skips
(`skip_exactly_when_checkpoint_holds`).

With empty indexes refused, a pass over an index that yields no charts, because it has no
entries or every version it lists is deprecated (`chartsFromIndex_eq_nil_iff`), stops with
an error when the repository has charts stored, and writes nothing. The checksum gate comes
first, though: when the checkpoint already holds the index's checksum, as after a sync of
the empty index while the repository had no charts, the pass skips instead
(`empty_index_skipped_over_populated_repository`). Either way a repository that has charts
keeps some (`truncated_index_never_empties_repository`).
-/

set_option autoImplicit false

namespace ChartCatalog

open Http

/-! ## Checkpoints -/

namespace Catalog

variable {c c' : Catalog}

/-- On a well-formed catalog whose checkpoint of a repository reads back, the checksum is
processed for the repository exactly when the checkpoint holds it. -/
theorem WellFormed.alreadyProcessed_iff (wf : c.WellFormed) {name checksum : String}
    {stored : Option Checkpoint} (read : c.getCheckpoint name = .ok stored) :
    c.alreadyProcessed name checksum = true ↔ ∃ cp, stored = some cp ∧ cp.checksum = checksum := by
  cases c with
  | relational r =>
    simp only [getCheckpoint, RelationalCatalog.getCheckpoint] at read
    simp only [alreadyProcessed, RelationalCatalog.alreadyProcessed]
    cases found : r.repos.get? name with
    | none =>
      rw [found] at read
      cases read
      simp
    | some row =>
      rw [found] at read
      dsimp only at read ⊢
      -- a checkpoint row that reads back reads as its checksum
      cases readBack : Instant.parseStrict? row.lastUpdate with
      | none =>
        rw [readBack] at read
        cases read
      | some time =>
        rw [readBack] at read
        cases read
        simp
  | documents d =>
    obtain ⟨r, mirror⟩ := wf
    simp only [getCheckpoint, DocumentCatalog.getCheckpoint, mirror.findOne_checkpoint] at read
    simp only [alreadyProcessed, mirror.alreadyProcessed, RelationalCatalog.alreadyProcessed]
    rcases Table.rel_cases (mirror.repos.get? name) with ⟨none, none'⟩ | ⟨row, doc, some, some', stored'⟩
    · rw [none'] at read
      cases read
      simp [none]
    · obtain ⟨time, decoded, -⟩ := stored'.decode
      simp only [some', Option.mapM_some, decoded] at read
      cases read
      simp [some]

/-- Recording a checksum marks it processed for the repository, whatever the catalog
held. -/
theorem alreadyProcessed_updateLastCheck_self {repo : Repo} {checksum : String} {now : Instant}
    (written : c.updateLastCheck repo checksum now = .ok c') :
    c'.alreadyProcessed repo.name checksum = true := by
  cases c with
  | relational r =>
    cases written
    simp [alreadyProcessed, RelationalCatalog.alreadyProcessed, RelationalCatalog.updateLastCheck,
      Table.get?_insert]
  | documents d =>
    simp only [updateLastCheck, DocumentCatalog.updateLastCheck_eq, Except.map] at written
    cases written
    -- the checkpoint document is stored under the repository's name, and matches the filter
    obtain ⟨before, after, rows, -⟩ := List.lookup_eq_some_iff.1
      (Table.get?_insert d.repos.docs repo.name (⟨repo.name, repo.ns, checksum, now⟩ : Checkpoint).document)
    have stored : (⟨repo.name, repo.ns, checksum, now⟩ : Checkpoint).document ∈
        (d.repos.docs.insert repo.name (⟨repo.name, repo.ns, checksum, now⟩ : Checkpoint).document).values := by
      simp [Table.values, rows]
    have matching : (Filter.all [Filter.onId repo.name, Filter.textAt "checksum" checksum]).matches
        (⟨repo.name, repo.ns, checksum, now⟩ : Checkpoint).document = true :=
      by simp [Filter.matches_all, Filter.onId, Filter.textAt_checksum,
        Filter.matches_eq_of_walk? (walk?_single (Checkpoint.get?_document _).1),
        Filter.matches_eq_of_walk? (walk?_single (Checkpoint.get?_document _).2)]
    simp only [alreadyProcessed, DocumentCatalog.alreadyProcessed, Collection.findOne]
    rw [List.find?_isSome]
    exact ⟨_, stored, matching⟩

end Catalog

/-! ## The index a pass downloads -/

namespace Pass

variable (fetch : Fetch) (t : Traced Catalog)

/-- Downloading the index of a repository with a valid URL sends one request, to the
index URL with the repository's credentials, and gives the body of its answer. -/
theorem exec_fetchIndex {repo : Repo} {url : String} (located : Repository.indexUrl repo.url = .ok url) :
    (fetchIndex repo).exec fetch t =
      (((fetch ⟨url, repo.authHeader⟩).bind fun r => r.checked url).map Response.body,
        { t with requests := t.requests.push ⟨url, repo.authHeader⟩ }) := by
  unfold fetchIndex
  rw [Online.exec_bind, Online.exec_ofOutcome, located]
  dsimp only
  rw [Online.exec_bind, Online.exec_getChecked]
  cases (fetch ⟨url, repo.authHeader⟩).bind fun response => response.checked url <;> rfl

/-! ## The checksum gate -/

variable {fetch t} {repo : Repo} {data : ByteArray}

/-- A pass over an index whose checksum the checkpoint holds skips after the download, and
writes nothing. -/
theorem exec_syncRepoUnder_processed {faults : StoreFaults} {options : SyncOptions} {now : Instant}
    (fetched : ((fetchIndex repo).exec fetch t).1 = .ok data)
    (processed : t.state.alreadyProcessed repo.name (indexChecksum data) = true) :
    (syncRepoUnder faults options now repo).exec fetch t = (.ok .skipped, ((fetchIndex repo).exec fetch t).2) := by
  have fetchedState := fetchIndex_state fetch t repo
  unfold syncRepoUnder
  rw [Online.exec_bind_of_ok fetch t fetched]
  dsimp only
  rw [catalog, Online.exec_bind, Online.exec_current]
  dsimp only
  rw [fetchedState, if_pos processed]
  rfl

/-- Under a fault plan that spares the completion of a sync, a pass over an index it
downloads skips exactly when the checkpoint holds the index's checksum. -/
theorem syncRepoUnder_skipped_iff {faults : StoreFaults} (spared : faults.SparesCompletion)
    {options : SyncOptions} {now : Instant} (fetched : ((fetchIndex repo).exec fetch t).1 = .ok data) :
    ((syncRepoUnder faults options now repo).exec fetch t).1 = .ok .skipped ↔
      t.state.alreadyProcessed repo.name (indexChecksum data) = true := by
  constructor
  · intro skipped
    rcases syncRepoUnder_cases fetch t spared options now repo with
      ⟨-, e, failed⟩ | ⟨-, -, data', fetched', processed⟩ | ⟨data', index, report, -, -, synced, -⟩
    · rw [skipped] at failed
      cases failed
    · rw [fetched] at fetched'
      cases fetched'
      exact processed
    · rw [skipped] at synced
      cases synced
  · intro processed
    rw [exec_syncRepoUnder_processed fetched processed]

/-- A pass that syncs records the checksum of the index it downloaded. -/
theorem syncRepoUnder_synced_processed {faults : StoreFaults} (spared : faults.SparesCompletion)
    {options : SyncOptions} {now : Instant} {report : SyncReport}
    (fetched : ((fetchIndex repo).exec fetch t).1 = .ok data)
    (synced : ((syncRepoUnder faults options now repo).exec fetch t).1 = .ok (.synced report)) :
    ((syncRepoUnder faults options now repo).exec fetch t).2.state.alreadyProcessed repo.name
      (indexChecksum data) = true := by
  rcases syncRepoUnder_cases fetch t spared options now repo with
    ⟨-, e, failed⟩ | ⟨-, skipped, -⟩ | ⟨data', index, report', fetched', -, -, syncedTo⟩
  · rw [synced] at failed
    cases failed
  · rw [synced] at skipped
    cases skipped
  · rw [fetched] at fetched'
    cases fetched'
    obtain ⟨removed, c₁, c₂, -, -, recorded⟩ := syncedTo
    exact Catalog.alreadyProcessed_updateLastCheck_self recorded

end Pass

/-! ## A repository that gained charts after a sync -/

namespace RelationalCatalog

variable (repo : Repo) (checksum : String) (now : Instant) (charts : List Chart)

/-- A relational catalog whose checkpoint of a repository records a checksum, and in which the
repository has gained charts since. -/
theorem wellFormed_importCharts_updateLastCheck :
    (Catalog.relational ((empty.updateLastCheck repo checksum now).importCharts repo charts)).WellFormed :=
  WellFormed.importCharts (WellFormed.updateLastCheck Catalog.WellFormed.emptyRelational repo _ _) repo charts

/-- The import leaves the checkpoint, so the checksum stays processed for the repository. -/
theorem alreadyProcessed_importCharts_updateLastCheck :
    (Catalog.relational ((empty.updateLastCheck repo checksum now).importCharts repo charts)).alreadyProcessed
      repo.name checksum = true := by
  have recorded : Catalog.emptyRelational.updateLastCheck repo checksum now =
      .ok (.relational (empty.updateLastCheck repo checksum now)) :=
    rfl
  -- the import leaves the checkpoint rows, so the two catalogs read checkpoints alike
  have processed := Catalog.alreadyProcessed_updateLastCheck_self recorded
  exact processed

end RelationalCatalog

/-- A pass over the index body whose checksum a repository's checkpoint records skips,
whatever charts the repository gained since. -/
theorem Pass.syncRepo_skipped_after_recorded {repo : Repo} {url : String}
    (located : Repository.indexUrl repo.url = .ok url) {fetch : Fetch} {response : Response}
    (answered : ((fetch ⟨url, repo.authHeader⟩).bind fun r => r.checked url) = .ok response)
    (options : SyncOptions) (now recordedAt : Instant) (charts : List Chart) (requests : Array Request) :
    ((Pass.syncRepo options now repo).exec fetch ⟨.relational ((RelationalCatalog.empty.updateLastCheck
      repo (indexChecksum response.body) recordedAt).importCharts repo charts), requests⟩).1 = .ok .skipped := by
  have fetched : ((Pass.fetchIndex repo).exec fetch ⟨.relational ((RelationalCatalog.empty.updateLastCheck
      repo (indexChecksum response.body) recordedAt).importCharts repo charts), requests⟩).1 =
        .ok response.body := by
    rw [Pass.exec_fetchIndex fetch _ located, answered]
    rfl
  unfold Pass.syncRepo
  rw [Pass.exec_syncRepoUnder_processed fetched
    (RelationalCatalog.alreadyProcessed_importCharts_updateLastCheck _ _ _ _)]

/-- Syncing is gated by the checksum of the index. On a well-formed catalog of either
backend, a pass over an index it downloads skips exactly when the checkpoint of the
repository holds the index's checksum, as far as the checkpoint reads back; a skip sends
no request but the index's and writes nothing; and right after a pass that syncs, a pass
over the same index body skips. -/
theorem skip_exactly_when_checkpoint_holds {repo : Repo} {url : String} {fetch : Fetch}
    {response : Response} (located : Repository.indexUrl repo.url = .ok url)
    (answered : ((fetch ⟨url, repo.authHeader⟩).bind fun r => r.checked url) = .ok response)
    (options : SyncOptions) (now : Instant) (t : Traced Catalog) (wf : t.state.WellFormed) :
    let ran := (Pass.syncRepo options now repo).exec fetch t
    (∀ stored, t.state.getCheckpoint repo.name = .ok stored →
      (ran.1 = .ok .skipped ↔ ∃ cp, stored = some cp ∧ cp.checksum = indexChecksum response.body)) ∧
      (ran.1 = .ok .skipped → ran.2 = { t with requests := t.requests.push ⟨url, repo.authHeader⟩ }) ∧
      ∀ report, ran.1 = .ok (.synced report) →
        ∀ (fetch' : Fetch) (response' : Response) (options' : SyncOptions) (now' : Instant),
          ((fetch' ⟨url, repo.authHeader⟩).bind fun r => r.checked url) = .ok response' →
          response'.body = response.body →
          ((Pass.syncRepo options' now' repo).exec fetch' ran.2).1 = .ok .skipped := by
  dsimp only
  unfold Pass.syncRepo
  have spared := StoreFaults.sparesCompletion_none
  -- every pass here downloads the index body of the response
  have fetched : ∀ (fetch' : Fetch) (t' : Traced Catalog) (response' : Response),
      ((fetch' ⟨url, repo.authHeader⟩).bind fun r => r.checked url) = .ok response' →
      ((Pass.fetchIndex repo).exec fetch' t').1 = .ok response'.body := by
    intro fetch' t' response' answered'
    rw [Pass.exec_fetchIndex fetch' t' located, answered']
    rfl
  refine ⟨fun stored read => ?_, fun skipped => ?_, fun report synced fetch' response' options' now'
    answered' same => ?_⟩
  · rw [Pass.syncRepoUnder_skipped_iff spared (fetched fetch t response answered)]
    exact wf.alreadyProcessed_iff read
  · have processed := (Pass.syncRepoUnder_skipped_iff spared (fetched fetch t response answered)).1 skipped
    rw [Pass.exec_syncRepoUnder_processed (fetched fetch t response answered) processed,
      Pass.exec_fetchIndex fetch t located]
  · have recorded := Pass.syncRepoUnder_synced_processed spared (fetched fetch t response answered) synced
    rw [← same] at recorded
    exact (Pass.syncRepoUnder_skipped_iff spared (fetched fetch' _ response' answered')).2 recorded

/-- A pass over the index body whose checksum the repository's checkpoint records, for a
repository that has gained a chart since: the pass skips. -/
theorem skip_exactly_when_checkpoint_holds_over_populated_repository :
    let repo : Repo := ⟨"t", "default", "http://t.test/charts", none⟩
    let url := "http://t.test/charts/index.yaml"
    let response : Response := ⟨200, none, "apiVersion: v1\nentries:\n  c:\n  - version: \"2\"\n".toUTF8⟩
    let fetch : Fetch := fun _ => .ok response
    let chart : Chart :=
      ⟨"t/c", "c", repo.reference, "", "", [], [], [], "", none, none, [⟨"1", "", none, "", []⟩]⟩
    let t : Traced Catalog := ⟨.relational ((RelationalCatalog.empty.updateLastCheck repo
      (indexChecksum response.body) ⟨0, 0, 0⟩).importCharts repo [chart]), #[]⟩
    Repository.indexUrl repo.url = .ok url ∧
      ((fetch ⟨url, repo.authHeader⟩).bind fun r => r.checked url) = .ok response ∧ t.state.WellFormed ∧
      ((Pass.syncRepo SyncOptions.standard ⟨0, 0, 0⟩ repo).exec fetch t).1 = .ok .skipped ∧
      let ran := (Pass.syncRepo SyncOptions.standard ⟨0, 0, 0⟩ repo).exec fetch t
      (∀ stored, t.state.getCheckpoint repo.name = .ok stored →
        (ran.1 = .ok .skipped ↔ ∃ cp, stored = some cp ∧ cp.checksum = indexChecksum response.body)) ∧
        (ran.1 = .ok .skipped → ran.2 = { t with requests := t.requests.push ⟨url, repo.authHeader⟩ }) ∧
        ∀ report, ran.1 = .ok (.synced report) →
          ∀ (fetch' : Fetch) (response' : Response) (options' : SyncOptions) (now' : Instant),
            ((fetch' ⟨url, repo.authHeader⟩).bind fun r => r.checked url) = .ok response' →
            response'.body = response.body →
            ((Pass.syncRepo options' now' repo).exec fetch' ran.2).1 = .ok .skipped := by
  intro repo url response fetch chart t
  have located : Repository.indexUrl repo.url = .ok url := by decide +kernel
  have wf : t.state.WellFormed :=
    RelationalCatalog.wellFormed_importCharts_updateLastCheck repo _ _ [chart]
  exact ⟨located, rfl, wf,
    Pass.syncRepo_skipped_after_recorded located rfl SyncOptions.standard ⟨0, 0, 0⟩ ⟨0, 0, 0⟩ [chart] #[],
    skip_exactly_when_checkpoint_holds located rfl SyncOptions.standard ⟨0, 0, 0⟩ t wf⟩

/-! ## The empty-index guard -/

/-- A listing by id of charts that are not none lists some chart. -/
theorem ListsById.ne_nil {charts listing : List Chart} (lists : ListsById charts listing)
    (held : charts ≠ []) : listing ≠ [] := by
  obtain ⟨chart, member⟩ := List.exists_mem_of_ne_nil charts held
  obtain ⟨last, found⟩ : ∃ last, Chart.lastWithId charts chart.id = some last :=
    Option.isSome_iff_exists.1 (Chart.lastWithId_isSome.2 (List.mem_map_of_mem member))
  have sameId := (Chart.lastWithId_spec found).1
  have listed : last ∈ listing := (lists.2 last).2 (by rw [sameId]; exact found)
  exact List.ne_nil_of_mem listed

namespace Pass

variable {fetch : Fetch} {t : Traced Catalog} {repo : Repo} {data : ByteArray}

/-- With empty indexes refused, a pass over an index whose checksum the checkpoint does not
hold and that yields no charts, for a repository with charts stored, stops with the
empty-index error after the download, and writes nothing. -/
theorem exec_syncRepoUnder_refused {faults : StoreFaults} {options : SyncOptions} {now : Instant}
    {index : IndexFile} {stored : List Chart} (fetched : ((fetchIndex repo).exec fetch t).1 = .ok data)
    (unprocessed : t.state.alreadyProcessed repo.name (indexChecksum data) = false)
    (parsed : parseIndex data = .ok index) (empty : chartsFromIndex index repo = [])
    (refusing : options.allowEmptyIndex = false) (listed : t.state.listCharts repo.name = .ok stored)
    (held : stored ≠ []) :
    (syncRepoUnder faults options now repo).exec fetch t =
      (.error (emptyIndexError repo.name stored.length), ((fetchIndex repo).exec fetch t).2) := by
  have fetchedState := fetchIndex_state fetch t repo
  unfold syncRepoUnder
  rw [Online.exec_bind_of_ok fetch t fetched]
  dsimp only
  rw [catalog, Online.exec_bind, Online.exec_current]
  dsimp only
  rw [fetchedState, unprocessed, if_neg Bool.false_ne_true, Online.exec_bind, Online.exec_ofOutcome,
    parsed]
  dsimp only
  -- the guard reads the repository's listing and refuses
  rw [empty, refusing]
  simp only [List.isEmpty_nil, Bool.not_false, Bool.and_self, ↓reduceIte]
  rw [Online.exec_bind, Online.exec_reading, fetchedState, listed]
  dsimp only
  rw [if_pos (by simpa using held)]
  rfl

/-- With empty indexes refused, a pass keeps some chart of a repository that has charts, on
a well-formed catalog and at a valid instant, whatever it comes to. -/
theorem syncRepo_keeps_some_chart {options : SyncOptions} (refusing : options.allowEmptyIndex = false)
    {now : Instant} (valid : now.Valid) (wf : t.state.WellFormed) {stored : List Chart}
    (listed : t.state.listCharts repo.name = .ok stored) (held : stored ≠ []) :
    ∃ after, ((syncRepo options now repo).exec fetch t).2.state.listCharts repo.name = .ok after ∧
      after ≠ [] := by
  have spared := StoreFaults.sparesCompletion_none
  unfold syncRepo
  rcases syncRepoUnder_cases fetch t spared options now repo with
    ⟨same, -⟩ | ⟨same, -⟩ | ⟨data, index, report, fetched, parsed, synced, syncedTo⟩
  · exact ⟨stored, by rw [same]; exact listed, held⟩
  · exact ⟨stored, by rw [same]; exact listed, held⟩
  · by_cases empty : chartsFromIndex index repo = []
    · -- the guard refuses a pass over an index without charts, so this one cannot sync
      have unprocessed : t.state.alreadyProcessed repo.name (indexChecksum data) = false := by
        rcases processed : t.state.alreadyProcessed repo.name (indexChecksum data)
        · rfl
        · rw [(syncRepoUnder_skipped_iff spared fetched).2 processed] at synced
          cases synced
      rw [exec_syncRepoUnder_refused fetched unprocessed parsed empty refusing listed held] at synced
      cases synced
    · obtain ⟨-, ⟨after, found, lists⟩, -⟩ :=
        syncedTo.spec wf valid fun chart member => (chartsFromIndex_spec member).1
      refine ⟨after, found, fun none => ?_⟩
      have mapped := lists.ne_nil (by simpa using empty)
      rw [none] at mapped
      exact mapped rfl

end Pass

/-- With empty indexes refused, a pass never empties a repository that has charts: on a
well-formed catalog of either backend, at a valid instant, the repository lists some chart
after the pass, whatever the pass comes to. A pass over an index whose versions are all
deprecated, for a repository with charts stored, writes nothing: it skips when the
checkpoint already holds the index's checksum, and otherwise fails with the empty-index
error. -/
theorem truncated_index_never_empties_repository (options : SyncOptions)
    (refusing : options.allowEmptyIndex = false) (now : Instant) (valid : now.Valid) (repo : Repo)
    (fetch : Fetch) (t : Traced Catalog) (wf : t.state.WellFormed) :
    let ran := (Pass.syncRepo options now repo).exec fetch t
    (∀ stored, t.state.listCharts repo.name = .ok stored → stored ≠ [] →
      ∃ after, ran.2.state.listCharts repo.name = .ok after ∧ after ≠ []) ∧
      ∀ data index stored, ((Pass.fetchIndex repo).exec fetch t).1 = .ok data →
        parseIndex data = .ok index → (∀ entry ∈ index.entries, ∀ e ∈ entry.2, e.deprecated = true) →
        t.state.listCharts repo.name = .ok stored → stored ≠ [] →
        ran.2.state = t.state ∧
          ran.1 = if t.state.alreadyProcessed repo.name (indexChecksum data) = true then .ok .skipped
            else .error (Pass.emptyIndexError repo.name stored.length) := by
  dsimp only
  refine ⟨fun stored listed held => Pass.syncRepo_keeps_some_chart refusing valid wf listed held,
    fun data index stored fetched parsed deprecated listed held => ?_⟩
  have empty := (chartsFromIndex_eq_nil_iff index repo).2 deprecated
  have fetchedState := Pass.fetchIndex_state fetch t repo
  unfold Pass.syncRepo
  cases processed : t.state.alreadyProcessed repo.name (indexChecksum data)
  · rw [Pass.exec_syncRepoUnder_refused fetched processed parsed empty refusing listed held,
      if_neg Bool.false_ne_true]
    dsimp only
    exact ⟨fetchedState, rfl⟩
  · rw [Pass.exec_syncRepoUnder_processed fetched processed, if_pos rfl]
    dsimp only
    exact ⟨fetchedState, rfl⟩

/-- With the standard options, a pass over an index whose only version is deprecated, for a
repository that holds a chart and has no checkpoint: the pass is refused and writes
nothing. -/
theorem truncated_index_never_empties_repository_over_populated_repository :
    let repo : Repo := ⟨"t", "default", "http://t.test/charts", none⟩
    let body := "apiVersion: v1\nentries:\n  c:\n  - version: \"2\"\n    deprecated: true\n".toUTF8
    let fetch : Fetch := fun _ => .ok ⟨200, none, body⟩
    let chart : Chart :=
      ⟨"t/c", "c", repo.reference, "", "", [], [], [], "", none, none, [⟨"1", "", none, "", []⟩]⟩
    let t : Traced Catalog := ⟨.relational (RelationalCatalog.empty.importCharts repo [chart]), #[]⟩
    let index : IndexFile := ⟨"v1", [("c", [{ (default : IndexEntry) with version := "2", deprecated := true }])]⟩
    SyncOptions.standard.allowEmptyIndex = false ∧ (⟨0, 0, 0⟩ : Instant).Valid ∧ t.state.WellFormed ∧
      t.state.listCharts repo.name = .ok [chart] ∧ ((Pass.fetchIndex repo).exec fetch t).1 = .ok body ∧
      parseIndex body = .ok index ∧ (∀ entry ∈ index.entries, ∀ e ∈ entry.2, e.deprecated = true) ∧
      t.state.alreadyProcessed repo.name (indexChecksum body) = false ∧
      let ran := (Pass.syncRepo SyncOptions.standard ⟨0, 0, 0⟩ repo).exec fetch t
      (∀ stored, t.state.listCharts repo.name = .ok stored → stored ≠ [] →
        ∃ after, ran.2.state.listCharts repo.name = .ok after ∧ after ≠ []) ∧
        ∀ data index stored, ((Pass.fetchIndex repo).exec fetch t).1 = .ok data →
          parseIndex data = .ok index → (∀ entry ∈ index.entries, ∀ e ∈ entry.2, e.deprecated = true) →
          t.state.listCharts repo.name = .ok stored → stored ≠ [] →
          ran.2.state = t.state ∧
            ran.1 = if t.state.alreadyProcessed repo.name (indexChecksum data) = true then .ok .skipped
              else .error (Pass.emptyIndexError repo.name stored.length) := by
  intro repo body fetch chart t index
  have valid : (⟨0, 0, 0⟩ : Instant).Valid := ⟨by decide, by decide, by decide, by decide, by decide⟩
  have wf : t.state.WellFormed :=
    RelationalCatalog.WellFormed.importCharts Catalog.WellFormed.emptyRelational repo [chart]
  have located : Repository.indexUrl repo.url = .ok "http://t.test/charts/index.yaml" := by
    decide +kernel
  have fetched : ((Pass.fetchIndex repo).exec fetch t).1 = .ok body := by
    rw [Pass.exec_fetchIndex fetch t located]
    rfl
  have parsed : parseIndex body = .ok index := by decide +kernel
  exact ⟨rfl, valid, wf, rfl, fetched, parsed, by decide, rfl,
    truncated_index_never_empties_repository SyncOptions.standard rfl ⟨0, 0, 0⟩ valid repo fetch t wf⟩

/-- A repository synced to an index without entries while it had no charts, that has gained
a chart since: a pass over the same index skips at the checksum gate, before the guard
against empty indexes, and reports no error. -/
theorem empty_index_skipped_over_populated_repository :
    let repo : Repo := ⟨"t", "default", "http://t.test/charts", none⟩
    let body := "apiVersion: v1\nentries: {}\n".toUTF8
    let fetch : Fetch := fun _ => .ok ⟨200, none, body⟩
    let chart : Chart :=
      ⟨"t/c", "c", repo.reference, "", "", [], [], [], "", none, none, [⟨"1", "", none, "", []⟩]⟩
    let t : Traced Catalog := ⟨.relational
      ((RelationalCatalog.empty.updateLastCheck repo (indexChecksum body) ⟨0, 0, 0⟩).importCharts repo
        [chart]), #[]⟩
    t.state.WellFormed ∧ t.state.listCharts repo.name = .ok [chart] ∧
      (∃ index, parseIndex body = .ok index ∧ chartsFromIndex index repo = []) ∧
      ((Pass.syncRepo SyncOptions.standard ⟨0, 0, 0⟩ repo).exec fetch t).1 = .ok .skipped := by
  intro repo body fetch chart t
  have wf : t.state.WellFormed :=
    RelationalCatalog.wellFormed_importCharts_updateLastCheck repo _ _ [chart]
  have parsed : parseIndex body = .ok ⟨"v1", []⟩ := by decide +kernel
  have located : Repository.indexUrl repo.url = .ok "http://t.test/charts/index.yaml" := by
    decide +kernel
  have answered : ((fetch ⟨"http://t.test/charts/index.yaml", repo.authHeader⟩).bind
      fun r => r.checked "http://t.test/charts/index.yaml") = .ok ⟨200, none, body⟩ :=
    rfl
  -- the checkpoint of the earlier sync of the same index still holds its checksum
  exact ⟨wf, rfl, ⟨⟨"v1", []⟩, parsed, rfl⟩, Pass.syncRepo_skipped_after_recorded located answered
    SyncOptions.standard ⟨0, 0, 0⟩ ⟨0, 0, 0⟩ [chart] #[]⟩

end ChartCatalog
