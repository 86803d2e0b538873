import ChartCatalog.Proofs.Sync.Artifacts

/-!
# What one sync pass does

A pass over a repository downloads its index and stops, with the catalog as it was,
when the checkpoint already has the index's checksum, when the index does not read, when
an index without charts would empty the repository, or when the import of the charts
fails. Otherwise it syncs the store to the index's charts, runs the artifact jobs and
records the checkpoint. Under a fault plan that spares the two writes completing a sync
(`StoreFaults.SparesCompletion`) these are all the cases (`Pass.syncRepoUnder_cases`):
the pass fails and leaves the catalog as it was, or it reports a skip over an index whose
checksum the checkpoint has and leaves the catalog as it was, or it reports a sync and
leaves the catalog synced to the index (`Pass.SyncedTo`).

Recording a checkpoint changes the checkpoint of its repository only
(`Catalog.WellFormed.updateLastCheck`); syncing and the artifact jobs change no
checkpoint.
-/

set_option autoImplicit false

namespace ChartCatalog

open Http

/-! ## Checkpoints -/

namespace RelationalCatalog

variable {r : RelationalCatalog}

theorem alreadyProcessed_updateLastCheck (sorted : r.repos.Sorted) (repo : Repo) (checksum : String)
    (now : Instant) (name processed : String) :
    (r.updateLastCheck repo checksum now).alreadyProcessed name processed =
      if name = repo.name then checksum == processed else r.alreadyProcessed name processed := by
  by_cases here : name = repo.name
  · subst here
    simp [alreadyProcessed, updateLastCheck, Table.get?_insert]
  · simp only [alreadyProcessed, updateLastCheck, if_neg here,
      Table.get?_insert_ne sorted _ here]

theorem alreadyProcessed_deleteRepo (sorted : r.repos.Sorted) (repoName name processed : String) :
    (r.deleteRepo repoName).alreadyProcessed name processed =
      if name = repoName then false else r.alreadyProcessed name processed := by
  have found : (r.deleteRepo repoName).repos.get? name =
      (r.repos.get? name).filter fun _ => !(name == repoName) :=
    Table.get?_removeWhere sorted (fun name _ => name == repoName) name
  unfold alreadyProcessed
  rw [found]
  by_cases here : name = repoName
  · cases r.repos.get? name <;> simp [here]
  · have kept : (name == repoName) = false := beq_false_of_ne here
    cases r.repos.get? name <;> simp [Option.filter, kept, here]

end RelationalCatalog

namespace Catalog

variable {c c' : Catalog}

/-- Recording a checkpoint always succeeds. On a well-formed catalog, at a valid instant,
it keeps the catalog well formed and its charts as they were, and it marks the checksum
as processed for its repository and for no other. -/
theorem WellFormed.updateLastCheck (wf : c.WellFormed) (repo : Repo) (checksum : String)
    {now : Instant} (valid : now.Valid) :
    ∃ c', c.updateLastCheck repo checksum now = .ok c' ∧ c'.WellFormed ∧
      (∀ name, c'.listCharts name = c.listCharts name) ∧
      ∀ name processed, c'.alreadyProcessed name processed =
        if name = repo.name then checksum == processed else c.alreadyProcessed name processed := by
  cases c with
  | relational r =>
    have wf : r.WellFormed := wf
    exact ⟨_, rfl, wf.updateLastCheck repo checksum now, fun _ => rfl,
      RelationalCatalog.alreadyProcessed_updateLastCheck wf.reposSorted repo checksum now⟩
  | documents d =>
    obtain ⟨r, mirror⟩ := wf
    obtain ⟨d', written, mirror'⟩ := mirror.updateLastCheck repo checksum valid
    refine ⟨.documents d', by simp [Catalog.updateLastCheck, written, Except.map], ⟨_, mirror'⟩,
      fun name => ?_, fun name processed => ?_⟩
    · simp only [listCharts, mirror'.listCharts, mirror.listCharts]
      rfl
    · simp only [alreadyProcessed, mirror'.alreadyProcessed, mirror.alreadyProcessed,
        RelationalCatalog.alreadyProcessed_updateLastCheck mirror.reposSorted repo checksum now]

/-- A sync writes charts only: every checkpoint stays. -/
theorem alreadyProcessed_sync {repo : Repo} {charts : List Chart} {removed : Nat}
    (synced : c.sync repo charts = .ok (removed, c')) (name processed : String) :
    c'.alreadyProcessed name processed = c.alreadyProcessed name processed := by
  cases c with
  | relational r =>
    simp only [Catalog.sync, Catalog.importCharts, ok_bind, Catalog.removeMissing, pure_eq_ok,
      Except.ok.injEq, Prod.mk.injEq] at synced
    rw [← synced.2]
    rfl
  | documents d =>
    simp only [Catalog.sync, Catalog.importCharts, DocumentCatalog.importCharts_eq, Except.map,
      ok_bind, Catalog.removeMissing, pure_eq_ok, Except.ok.injEq, Prod.mk.injEq] at synced
    rw [← synced.2]
    rfl

theorem WellFormed.alreadyProcessed_deleteRepo (wf : c.WellFormed) (repoName name processed : String) :
    (c.deleteRepo repoName).alreadyProcessed name processed =
      if name = repoName then false else c.alreadyProcessed name processed := by
  cases c with
  | relational r =>
    have wf : r.WellFormed := wf
    exact RelationalCatalog.alreadyProcessed_deleteRepo wf.reposSorted repoName name processed
  | documents d =>
    obtain ⟨r, mirror⟩ := wf
    simp only [Catalog.deleteRepo, Catalog.alreadyProcessed, (mirror.deleteRepo repoName).alreadyProcessed,
      mirror.alreadyProcessed, RelationalCatalog.alreadyProcessed_deleteRepo mirror.reposSorted]

end Catalog

/-- Recording a checkpoint always succeeds. -/
theorem Catalog.updateLastCheck_ok (c : Catalog) (repo : Repo) (checksum : String) (now : Instant) :
    ∃ c', c.updateLastCheck repo checksum now = .ok c' := by
  cases c with
  | relational r => exact ⟨_, rfl⟩
  | documents d =>
    obtain ⟨d', written⟩ : ∃ d', d.updateLastCheck repo checksum now = .ok d' :=
      ⟨_, d.updateLastCheck_eq repo checksum now⟩
    exact ⟨.documents d', by simp [Catalog.updateLastCheck, written, Except.map]⟩

/-! ## One pass -/

/-- A fault plan under which the two writes that complete a sync never fail: the removal
of the charts no longer listed, and the checkpoint. -/
def StoreFaults.SparesCompletion (faults : StoreFaults) : Prop :=
  (∀ repoName keep, faults.fails (.removeMissing repoName keep) = Option.none) ∧
    ∀ repo checksum now, faults.fails (.updateLastCheck repo checksum now) = Option.none

/-- The plan without faults spares the completion of every sync. -/
theorem StoreFaults.sparesCompletion_none : StoreFaults.none.SparesCompletion :=
  ⟨fun _ _ => rfl, fun _ _ _ => rfl⟩

/-- A pass synced a catalog to a repository's charts: it imported them and removed the
repository's charts no longer listed, ran artifact jobs, and recorded the checksum. -/
def Pass.SyncedTo (c c' : Catalog) (repo : Repo) (charts : List Chart) (checksum : String)
    (now : Instant) : Prop :=
  ∃ removed c₁ c₂, c.sync repo charts = .ok (removed, c₁) ∧ c₁.ArtifactsOnly c₂ ∧
    c₂.updateLastCheck repo checksum now = .ok c'

namespace Pass

variable (fetch : Fetch) (t : Traced Catalog)

theorem exec_storeWrite {α : Type} (faults : StoreFaults) (op : CatalogOp)
    (write : Catalog → Outcome (α × Catalog)) :
    (storeWrite faults op write).exec fetch t =
      match faults.fails op with
      | some e => (.error e, t)
      | none => (Online.writing write).exec fetch t := by
  unfold storeWrite
  cases faults.fails op <;> rfl

theorem exec_importCharts (faults : StoreFaults) (repo : Repo) (charts : List Chart) :
    (importCharts faults repo charts).exec fetch t =
      match faults.fails (.importCharts repo charts) with
      | some e => (.error e, t)
      | none =>
        match t.state.importCharts repo charts with
        | .ok c => (.ok (), { t with state := c })
        | .error e => (.error e, t) := by
  rw [importCharts, exec_storeWrite]
  cases faults.fails (.importCharts repo charts) with
  | some e => rfl
  | none =>
    rw [Online.exec_writing]
    cases t.state.importCharts repo charts <;> rfl

theorem exec_removeMissing {faults : StoreFaults} (spared : faults.SparesCompletion)
    (repoName : String) (keep : List String) :
    (removeMissing faults repoName keep).exec fetch t =
      (.ok (t.state.removeMissing repoName keep).1,
        { t with state := (t.state.removeMissing repoName keep).2 }) := by
  rw [removeMissing, exec_storeWrite, spared.1 repoName keep, Online.exec_writing]

theorem exec_updateLastCheck {faults : StoreFaults} (spared : faults.SparesCompletion)
    {repo : Repo} {checksum : String} {now : Instant} {c' : Catalog}
    (written : t.state.updateLastCheck repo checksum now = .ok c') :
    (updateLastCheck faults repo checksum now).exec fetch t = (.ok (), { t with state := c' }) := by
  rw [updateLastCheck, exec_storeWrite, spared.2 repo checksum now, Online.exec_writing, written]
  rfl

/-- Downloading the index leaves the catalog as it was. -/
theorem fetchIndex_state (repo : Repo) : ((fetchIndex repo).exec fetch t).2.state = t.state := by
  unfold fetchIndex
  rw [Online.exec_bind, Online.exec_ofOutcome]
  cases Repository.indexUrl repo.url with
  | error e => rfl
  | ok url =>
    dsimp only
    rw [Online.exec_bind, Online.exec_getChecked]
    cases (fetch ⟨url, repo.authHeader⟩).bind fun response => response.checked url <;> rfl

/-- The writes of a pass once its charts are built, under a fault plan that spares the
completion of the sync: the import fails and leaves the catalog as it was, or the pass
syncs the catalog to the charts. -/
theorem exec_syncTail {faults : StoreFaults} (spared : faults.SparesCompletion) (repo : Repo)
    (charts : List Chart) (checksum : String) (now : Instant) :
    let ran := (do
        importCharts faults repo charts
        let removed ← removeMissing faults repo.name (charts.map Chart.id)
        let report ← importArtifacts faults repo charts
        updateLastCheck faults repo checksum now
        pure (SyncOutcome.synced { report with charts := charts.length, chartsRemoved := removed }) :
          Pass SyncOutcome).exec fetch t
    (ran.2.state = t.state ∧ ∃ e, ran.1 = .error e) ∨
      ∃ report, ran.1 = .ok (.synced report) ∧ SyncedTo t.state ran.2.state repo charts checksum now := by
  dsimp only
  rw [Online.exec_bind, exec_importCharts]
  cases fault : faults.fails (.importCharts repo charts) with
  | some e => exact .inl ⟨rfl, e, rfl⟩
  | none =>
    cases imported : t.state.importCharts repo charts with
    | error e => exact .inl ⟨rfl, e, rfl⟩
    | ok c₀ =>
      dsimp only
      rw [Online.exec_bind, exec_removeMissing fetch _ spared]
      dsimp only
      rw [Online.exec_bind]
      -- the artifact jobs end in a report, and change icons and chart files only
      let t₁ : Traced Catalog :=
        { t with state := (c₀.removeMissing repo.name (charts.map Chart.id)).2 }
      have kept := keeps_importArtifacts faults repo charts fetch t₁
      obtain ⟨report, reported⟩ := importArtifacts_ok faults repo charts fetch t₁
      rcases ranJobs : (importArtifacts faults repo charts).exec fetch t₁ with ⟨e | report', t₂⟩
      · rw [ranJobs] at reported
        cases reported
      · rw [ranJobs] at kept
        obtain ⟨c', written⟩ := Catalog.updateLastCheck_ok t₂.state repo checksum now
        dsimp only
        rw [Online.exec_bind, exec_updateLastCheck fetch _ spared written]
        have synced : t.state.sync repo charts =
            .ok (c₀.removeMissing repo.name (charts.map Chart.id)) := by
          simp [Catalog.sync, imported]
        exact .inr ⟨_, rfl, _, _, _, synced, kept, written⟩

/-- What a pass can do, under a fault plan that spares the completion of a sync: it fails
and leaves the catalog as it was; or it downloads an index whose checksum the checkpoint
already has, reports a skip and leaves the catalog as it was; or it reads an index, reports
a sync, and leaves the catalog synced to the index's charts with the index's checksum
recorded. -/
theorem syncRepoUnder_cases {faults : StoreFaults} (spared : faults.SparesCompletion)
    (options : SyncOptions) (now : Instant) (repo : Repo) :
    let ran := (syncRepoUnder faults options now repo).exec fetch t
    (ran.2.state = t.state ∧ ∃ e, ran.1 = .error e) ∨
      (ran.2.state = t.state ∧ ran.1 = .ok .skipped ∧ ∃ data,
        ((fetchIndex repo).exec fetch t).1 = .ok data ∧
          t.state.alreadyProcessed repo.name (indexChecksum data) = true) ∨
      ∃ data index report, ((fetchIndex repo).exec fetch t).1 = .ok data ∧
        parseIndex data = .ok index ∧ ran.1 = .ok (.synced report) ∧
        SyncedTo t.state ran.2.state repo (chartsFromIndex index repo) (indexChecksum data) now := by
  dsimp only
  unfold syncRepoUnder
  have fetchedState := fetchIndex_state fetch t repo
  rw [Online.exec_bind]
  rcases fetched : (fetchIndex repo).exec fetch t with ⟨e | data, t₁⟩
  · rw [fetched] at fetchedState
    exact .inl ⟨fetchedState, e, rfl⟩
  · rw [fetched] at fetchedState
    dsimp only
    rw [catalog, Online.exec_bind, Online.exec_current]
    dsimp only
    split
    · -- the checkpoint has the checksum: the pass stops with a skip
      rename_i processed
      rw [fetchedState] at processed
      exact .inr (.inl ⟨fetchedState, rfl, data, rfl, processed⟩)
    · rw [Online.exec_bind, Online.exec_ofOutcome]
      cases parsed : parseIndex data with
      | error e => exact .inl ⟨fetchedState, e, rfl⟩
      | ok index =>
        dsimp only
        -- the charts are stored unless an empty index would empty the repository
        have tail := exec_syncTail fetch t₁ spared repo (chartsFromIndex index repo)
          (indexChecksum data) now
        have stored : ∀ {ran : Except CatalogError SyncOutcome × Traced Catalog},
            (ran.2.state = t₁.state ∧ ∃ e, ran.1 = .error e) ∨
              (∃ report, ran.1 = .ok (.synced report) ∧
                SyncedTo t₁.state ran.2.state repo (chartsFromIndex index repo) (indexChecksum data) now) →
            (ran.2.state = t.state ∧ ∃ e, ran.1 = .error e) ∨
              (ran.2.state = t.state ∧ ran.1 = .ok .skipped ∧ ∃ data',
                (Except.ok data : Except CatalogError ByteArray) = .ok data' ∧
                  t.state.alreadyProcessed repo.name (indexChecksum data') = true) ∨
              ∃ data' index' report, (Except.ok data : Except CatalogError ByteArray) = .ok data' ∧
                parseIndex data' = .ok index' ∧ ran.1 = .ok (.synced report) ∧
                SyncedTo t.state ran.2.state repo (chartsFromIndex index' repo) (indexChecksum data') now := by
          rintro ran (⟨same, failed⟩ | ⟨report, synced, syncedTo⟩)
          · exact .inl ⟨same.trans fetchedState, failed⟩
          · rw [fetchedState] at syncedTo
            exact .inr (.inr ⟨data, index, report, rfl, parsed, synced, syncedTo⟩)
        split
        · rw [Online.exec_bind, Online.exec_reading]
          cases t₁.state.listCharts repo.name with
          | error e => exact .inl ⟨fetchedState, e, rfl⟩
          | ok listed =>
            dsimp only
            split
            · exact .inl ⟨fetchedState, _, rfl⟩
            · exact stored tail
        · exact stored tail

end Pass

end ChartCatalog
