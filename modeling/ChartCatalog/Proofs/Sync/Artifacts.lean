import ChartCatalog.Proofs.Sync.Exec
import ChartCatalog.Proofs.Store.Reconcile
import ChartCatalog.Sync.Repository

/-!
# What the artifact jobs of a pass change

After a pass has synced a repository's charts, its artifact jobs (`Pass.importArtifacts`)
store chart files and set chart icons, and nothing else. A well-formed catalog stays well
formed, lists the same charts but for their icons, and keeps every checkpoint
(`Catalog.ArtifactsOnly`). The relation is a preorder and each store write of a job keeps
it, so every job keeps it, whatever the web answers and wherever a job fails
(`Pass.keeps_importArtifacts`). The jobs never fail as a whole: a job that fails is
counted in the report (`Pass.importArtifacts_ok`).
-/

set_option autoImplicit false

namespace ChartCatalog

open Http

/-- A chart without its stored icon. -/
def Chart.withoutIcon (chart : Chart) : Chart :=
  { chart with rawIcon := none, iconContentType := none }

@[simp] theorem Chart.id_withoutIcon (chart : Chart) : chart.withoutIcon.id = chart.id := rfl

/-- Chart rows that differ at most in the icon of their chart. -/
def ChartRow.SameButIcon (_ : String) (a b : ChartRow) : Prop :=
  a.repoName = b.repoName ∧ a.repoNs = b.repoNs ∧ a.chart.withoutIcon = b.chart.withoutIcon

namespace RelationalCatalog

variable {r r' : RelationalCatalog}

/-- Setting an icon changes the chart row under its id, and only its icon. -/
theorem updateIcon_sameButIcon (sorted : r.charts.Sorted) {repo : Repo} {chartId : String}
    {icon : ByteArray} {contentType : String}
    (updated : r.updateIcon repo chartId icon contentType = .ok r') :
    Table.Rel ChartRow.SameButIcon r.charts r'.charts ∧ r'.repos = r.repos ∧ r'.files = r.files := by
  simp only [RelationalCatalog.updateIcon] at updated
  split at updated
  · rename_i row found
    split at updated
    · cases updated
      have unchanged : Table.Rel ChartRow.SameButIcon r.charts r.charts :=
        Table.Rel.refl fun _ _ _ => ⟨rfl, rfl, rfl⟩
      let withIcon : Chart := { row.chart with rawIcon := some icon, iconContentType := some contentType }
      have related : Table.Rel ChartRow.SameButIcon (r.charts.insert chartId row)
          (r.charts.insert chartId { row with chart := withIcon }) :=
        unchanged.insert ⟨rfl, rfl, rfl⟩
      rw [Table.insert_self sorted found] at related
      exact ⟨related, rfl, rfl⟩
    · cases updated
  · cases updated

/-- Tables of chart rows that differ only in icons list the same charts but for their
icons. -/
theorem listCharts_sameButIcon (related : Table.Rel ChartRow.SameButIcon r.charts r'.charts)
    (name : String) :
    (r'.listCharts name).map Chart.withoutIcon = (r.listCharts name).map Chart.withoutIcon := by
  have selected : List.Forall₂ (fun a b => ∃ k, ChartRow.SameButIcon k a b)
      (r.charts.select fun _ row => row.repoName == name)
      (r'.charts.select fun _ row => row.repoName == name) :=
    related.select fun k a b same => by rw [same.1]
  have sameCharts : List.Forall₂ (fun a b => a.chart.withoutIcon = b.chart.withoutIcon)
      (r.charts.select fun _ row => row.repoName == name)
      (r'.charts.select fun _ row => row.repoName == name) :=
    selected.imp fun _ _ ⟨_, same⟩ => same.2.2
  have equal := List.forall₂_map_left_iff.2 (List.forall₂_map_right_iff.2 sameCharts)
  rw [List.forall₂_eq_eq_eq] at equal
  simp only [listCharts, List.map_map]
  exact equal.symm

end RelationalCatalog

namespace Catalog

/-- What the artifact jobs of a pass may do to a catalog: a well-formed catalog stays well
formed, lists the same charts but for their icons, and keeps its checkpoints. -/
def ArtifactsOnly (c c' : Catalog) : Prop :=
  c.WellFormed → c'.WellFormed ∧
    (∀ name, (c'.listCharts name).map (List.map Chart.withoutIcon) =
      (c.listCharts name).map (List.map Chart.withoutIcon)) ∧
    ∀ name checksum, c'.alreadyProcessed name checksum = c.alreadyProcessed name checksum

instance : Std.Refl ArtifactsOnly := ⟨fun _ wf => ⟨wf, fun _ => rfl, fun _ _ => rfl⟩⟩

instance : IsTrans Catalog ArtifactsOnly := ⟨fun _ _ _ first second wf => by
  obtain ⟨wf', lists, processed⟩ := first wf
  obtain ⟨wf'', lists', processed'⟩ := second wf'
  exact ⟨wf'', fun name => (lists' name).trans (lists name),
    fun name checksum => (processed' name checksum).trans (processed name checksum)⟩⟩

variable {c c' : Catalog}

theorem artifactsOnly_insertFiles {chartId : String} {files : ChartFiles}
    (written : c.insertFiles chartId files = .ok c') : c.ArtifactsOnly c' := by
  intro wf
  cases c with
  | relational r =>
    cases written
    exact ⟨RelationalCatalog.WellFormed.insertFiles wf chartId files, fun _ => rfl, fun _ _ => rfl⟩
  | documents d =>
    obtain ⟨r, mirror⟩ := wf
    obtain ⟨d', inserted, mirror'⟩ := mirror.insertFiles chartId files
    simp only [Catalog.insertFiles, inserted, Except.map] at written
    cases written
    refine ⟨⟨_, mirror'⟩, fun name => ?_, fun name checksum => ?_⟩
    · simp only [listCharts, mirror'.listCharts, mirror.listCharts]
      rfl
    · simp only [alreadyProcessed, mirror'.alreadyProcessed, mirror.alreadyProcessed]
      rfl

/-- The relational facts behind an icon update: the catalog stays well formed, lists the
same charts but for their icons, and keeps its checkpoints. -/
theorem RelationalCatalog.artifactsOnly_updateIcon {r r' : RelationalCatalog}
    (wf : r.WellFormed) {repo : Repo} {chartId : String} {icon : ByteArray} {contentType : String}
    (updated : r.updateIcon repo chartId icon contentType = .ok r') :
    r'.WellFormed ∧ (∀ name, (r'.listCharts name).map Chart.withoutIcon =
      (r.listCharts name).map Chart.withoutIcon) ∧
      ∀ name checksum, r'.alreadyProcessed name checksum = r.alreadyProcessed name checksum := by
  obtain ⟨related, sameRepos, -⟩ := RelationalCatalog.updateIcon_sameButIcon wf.chartsSorted updated
  refine ⟨wf.updateIcon updated, RelationalCatalog.listCharts_sameButIcon related, fun name checksum => ?_⟩
  simp only [RelationalCatalog.alreadyProcessed, sameRepos]

theorem artifactsOnly_updateIcon {repo : Repo} {chartId : String} {icon : ByteArray}
    {contentType : String} (updated : c.updateIcon repo chartId icon contentType = .ok c') :
    c.ArtifactsOnly c' := by
  intro wf
  cases c with
  | relational r =>
    cases changed : r.updateIcon repo chartId icon contentType with
    | error e => simp [Catalog.updateIcon, changed, Except.map] at updated
    | ok r' =>
      simp only [Catalog.updateIcon, changed, Except.map, Except.ok.injEq] at updated
      subst updated
      obtain ⟨wf', lists, processed⟩ := RelationalCatalog.artifactsOnly_updateIcon wf changed
      refine ⟨wf', fun name => ?_, processed⟩
      simp only [listCharts, Except.map, lists name]
  | documents d =>
    obtain ⟨r, mirror⟩ := wf
    rcases mirror.updateIcon repo chartId icon contentType with
      ⟨r', d', changed, changed', mirror'⟩ | ⟨e, -, failed⟩
    · simp only [Catalog.updateIcon, changed', Except.map, Except.ok.injEq] at updated
      subst updated
      obtain ⟨-, lists, processed⟩ :=
        RelationalCatalog.artifactsOnly_updateIcon mirror.wellFormed changed
      refine ⟨⟨_, mirror'⟩, fun name => ?_, fun name checksum => ?_⟩
      · simp only [listCharts, mirror'.listCharts, mirror.listCharts, Except.map, lists name]
      · simp only [alreadyProcessed, mirror'.alreadyProcessed, mirror.alreadyProcessed,
          processed name checksum]
    · simp [Catalog.updateIcon, failed, Except.map] at updated

end Catalog

namespace Pass

variable {R : Catalog → Catalog → Prop}

/-- A store write keeps a relation when each write it makes does. -/
theorem keeps_storeWrite [Std.Refl R] {α : Type} (faults : StoreFaults) (op : CatalogOp)
    {write : Catalog → Outcome (α × Catalog)}
    (written : ∀ c a c', write c = .ok (a, c') → R c c') :
    Online.Keeps R (storeWrite faults op write) := by
  unfold storeWrite
  cases faults.fails op with
  | some e => exact Online.keeps_throw e
  | none => exact Online.keeps_writing written

theorem keeps_insertFiles (faults : StoreFaults) (chartId : String) (files : ChartFiles) :
    Online.Keeps Catalog.ArtifactsOnly (insertFiles faults chartId files) := by
  refine keeps_storeWrite faults _ fun c _ c' written => ?_
  cases inserted : c.insertFiles chartId files with
  | error e => simp [inserted, Except.map] at written
  | ok next =>
    simp only [inserted, Except.map, Except.ok.injEq, Prod.mk.injEq] at written
    rw [← written.2]
    exact Catalog.artifactsOnly_insertFiles inserted

/-- An icon write keeps a relation that every icon update of the catalog keeps. -/
theorem keeps_updateIcon [Std.Refl R]
    (updates : ∀ {c c' repo chartId icon contentType},
      c.updateIcon repo chartId icon contentType = .ok c' → R c c')
    (faults : StoreFaults) (repo : Repo) (chartId : String) (icon : ByteArray) (contentType : String) :
    Online.Keeps R (updateIcon faults repo chartId icon contentType) := by
  refine keeps_storeWrite faults _ fun c _ c' written => ?_
  cases updated : c.updateIcon repo chartId icon contentType with
  | error e => simp [updated, Except.map] at written
  | ok next =>
    simp only [updated, Except.map, Except.ok.injEq, Prod.mk.injEq] at written
    rw [← written.2]
    exact updates updated

theorem keeps_importFilesUnder (faults : StoreFaults) (repo : Repo) (chart : Chart)
    (versions : List ChartVersion) :
    Online.Keeps Catalog.ArtifactsOnly (importFilesUnder faults repo chart versions) := by
  unfold importFilesUnder
  refine Online.keeps_current.bind fun c => ?_
  dsimp only
  split
  · exact Online.keeps_pure _
  · refine (Online.keeps_ofOutcome _).bind fun url => ?_
    refine (Online.keeps_getChecked _ _).bind fun response => ?_
    refine (Online.keeps_ofOutcome _).bind fun files => ?_
    refine (Online.keeps_forM (fun missing => ?_) _).bind fun _ => Online.keeps_pure _
    obtain ⟨filesId, version⟩ := missing
    exact keeps_insertFiles faults chart.id _

/-- An icon import keeps a relation that every icon update of the catalog keeps: it writes
nothing else. -/
theorem keeps_importIconUnder [Std.Refl R] [IsTrans Catalog R]
    (updates : ∀ {c c' repo chartId icon contentType},
      c.updateIcon repo chartId icon contentType = .ok c' → R c c')
    (faults : StoreFaults) (repo : Repo) (chart : Chart) :
    Online.Keeps R (importIconUnder faults repo chart) := by
  unfold importIconUnder
  dsimp only
  split
  · exact Online.keeps_pure _
  · refine (Online.keeps_getChecked _ _).bind fun response => ?_
    -- the icon is stored as it came or normalised, by one write either way
    have stored : ∀ icon : ByteArray × String, Online.Keeps R (do
        updateIcon faults repo chart.id icon.1 icon.2
        pure (IconOutcome.imported icon.2 icon.1.size)) := fun icon =>
      (keeps_updateIcon updates faults repo chart.id icon.1 icon.2).bind fun _ => Online.keeps_pure _
    split
    · exact (Online.keeps_pure _).bind stored
    · exact (Online.keeps_ofOutcome _).bind fun _ => (Online.keeps_pure _).bind stored

theorem keeps_runJob (faults : StoreFaults) (repo : Repo) (job : ArtifactJob) :
    Online.Keeps Catalog.ArtifactsOnly (runJob faults repo job) := by
  cases job with
  | icon chart =>
    exact Online.Keeps.tryCatch
      ((keeps_importIconUnder Catalog.artifactsOnly_updateIcon faults repo chart).bind
        fun _ => Online.keeps_pure _)
      fun _ => Online.keeps_pure _
  | files chart versions =>
    exact Online.Keeps.tryCatch
      ((keeps_importFilesUnder faults repo chart versions).bind fun _ => Online.keeps_pure _)
      fun _ => Online.keeps_pure _

/-- The artifact jobs of a pass store chart files and icons only. -/
theorem keeps_importArtifacts (faults : StoreFaults) (repo : Repo) (charts : List Chart) :
    Online.Keeps Catalog.ArtifactsOnly (importArtifacts faults repo charts) :=
  Online.keeps_foldlM (fun _ job => (keeps_runJob faults repo job).bind fun _ => Online.keeps_pure _)
    (artifactJobs charts) SyncReport.zero

/-- A job never fails: its error is its result. -/
theorem runJob_ok (faults : StoreFaults) (repo : Repo) (job : ArtifactJob) :
    Online.Succeeds (runJob faults repo job) := by
  cases job with
  | icon chart => exact Online.succeeds_tryCatch _ fun _ => Online.succeeds_pure _
  | files chart versions => exact Online.succeeds_tryCatch _ fun _ => Online.succeeds_pure _

/-- The artifact jobs never fail as a whole: a job that fails is counted. -/
theorem importArtifacts_ok (faults : StoreFaults) (repo : Repo) (charts : List Chart) :
    Online.Succeeds (importArtifacts faults repo charts) :=
  Online.succeeds_foldlM
    (fun _ job => (runJob_ok faults repo job).bind fun _ => Online.succeeds_pure _)
    (artifactJobs charts) SyncReport.zero

end Pass

end ChartCatalog
