import ChartCatalog.Proofs.Store.Backends

/-!
# Reconciling a repository's charts

Syncing a repository imports its listed charts and removes its charts that are no longer
listed. On a well-formed catalog of either backend (`Catalog.WellFormed`, which every
catalog reached from an empty one by admissible operations is: `Catalog.WellFormed.runAll`)
it is exact and scoped to the repository (`reconcile_scoped_to_repository`):

* it answers how many of the repository's charts were no longer listed;
* afterwards the repository's charts are the listed ones by id, one per id, the last
  listed of each id (`ListsById`);
* nothing of another repository changes,

as long as no listed chart has the id of a chart another repository holds. Chart ids
join the repository name and the chart name with `/`, so the repositories `a` and `a/b`
both name the id `a/b/c`, and syncing one of them then takes the other's chart
(`sync_takes_over_nested_chart`). Deleting a repository removes its charts, its chart files
and its checkpoint, and nothing else.

The relational catalog is reasoned about row by row (`RelationalCatalog.mem_sync`). A
well-formed document catalog is one that a relational catalog mirrors, and it gives the
relational catalog's answers.
-/

set_option autoImplicit false

namespace ChartCatalog

/-- The last chart of a list with an id. -/
def Chart.lastWithId (charts : List Chart) (id : String) : Option Chart :=
  charts.reverse.find? fun chart => chart.id == id

/-- A listing holds the charts of a list by id: in increasing order of ids, for each id of
the list the last chart with that id. -/
def ListsById (charts listing : List Chart) : Prop :=
  listing.Pairwise (fun a b => a.id < b.id) ∧
    ∀ chart, chart ∈ listing ↔ Chart.lastWithId charts chart.id = some chart

theorem Chart.lastWithId_spec {charts : List Chart} {id : String} {chart : Chart}
    (found : Chart.lastWithId charts id = some chart) : chart.id = id ∧ chart ∈ charts := by
  have holds := List.find?_some found
  have member := List.mem_of_find?_eq_some found
  exact ⟨by simpa using holds, List.mem_reverse.1 member⟩

theorem Chart.lastWithId_isSome {charts : List Chart} {id : String} :
    (Chart.lastWithId charts id).isSome ↔ id ∈ charts.map Chart.id := by
  rw [Chart.lastWithId, List.find?_isSome]
  simp only [List.mem_reverse, beq_iff_eq, List.mem_map]

namespace RelationalCatalog

/-- A relational catalog as its operations leave it: its tables in key order, and every
chart under its own id. -/
structure WellFormed (r : RelationalCatalog) : Prop where
  chartsSorted : r.charts.Sorted
  reposSorted : r.repos.Sorted
  filesSorted : r.files.Sorted
  chartKeys : ∀ k row, (k, row) ∈ r.charts.rows → k = row.chart.id

variable {r : RelationalCatalog}

/-! ## Rows after a sync -/

theorem importCharts_charts (repo : Repo) (charts : List Chart) :
    (r.importCharts repo charts).charts =
      r.charts.insertAll (charts.map fun chart => (chart.id, ⟨repo.name, repo.ns, chart⟩)) := by
  simp only [importCharts, Table.insertAll, List.foldl_map]

/-- After an import, the row under an id is the last chart imported with that id, filed
under the repository, or the row that was there when no imported chart has the id. -/
theorem mem_importCharts (sorted : r.charts.Sorted) (repo : Repo) (charts : List Chart)
    {k : String} {row : ChartRow} :
    (k, row) ∈ (r.importCharts repo charts).charts.rows ↔
      (∃ chart, Chart.lastWithId charts k = some chart ∧ row = ⟨repo.name, repo.ns, chart⟩) ∨
        ((k, row) ∈ r.charts.rows ∧ k ∉ charts.map Chart.id) := by
  rw [importCharts_charts, Table.mem_insertAll sorted, ← List.map_reverse,
    Table.lookup_map_entries, List.map_map]
  simp [Chart.lastWithId, eq_comm, Function.comp_def]

/-- After a sync, a row is an imported chart filed under the repository, or an earlier row
of another repository under an id that no imported chart has. -/
theorem mem_sync (sorted : r.charts.Sorted) (repo : Repo) (charts : List Chart) {k : String}
    {row : ChartRow} :
    (k, row) ∈ ((r.importCharts repo charts).removeMissing repo.name
        (charts.map Chart.id)).2.charts.rows ↔
      (∃ chart, Chart.lastWithId charts k = some chart ∧ row = ⟨repo.name, repo.ns, chart⟩) ∨
        ((k, row) ∈ r.charts.rows ∧ k ∉ charts.map Chart.id ∧ row.repoName ≠ repo.name) := by
  rw [removeMissing_eq]
  dsimp only
  rw [Table.mem_removeWhere, mem_importCharts sorted]
  constructor
  · rintro ⟨⟨chart, found, rfl⟩ | ⟨old, fresh⟩, kept⟩
    · exact .inl ⟨chart, found, rfl⟩
    · refine .inr ⟨old, fresh, fun same => ?_⟩
      simp [same, fresh] at kept
  · rintro (⟨chart, found, rfl⟩ | ⟨old, fresh, other⟩)
    · have listed : k ∈ charts.map Chart.id := Chart.lastWithId_isSome.1 (by rw [found]; rfl)
      exact ⟨.inl ⟨chart, found, rfl⟩, by simp [listed]⟩
    · exact ⟨.inr ⟨old, fresh⟩, by simp [other]⟩

/-! ## Keeping the catalog well formed -/

theorem WellFormed.importCharts (wf : r.WellFormed) (repo : Repo) (charts : List Chart) :
    (r.importCharts repo charts).WellFormed := by
  refine ⟨?_, wf.reposSorted, wf.filesSorted, fun k row member => ?_⟩
  · rw [importCharts_charts]
    exact wf.chartsSorted.insertAll _
  · rcases (mem_importCharts wf.chartsSorted repo charts).1 member with
      ⟨chart, found, rfl⟩ | ⟨old, -⟩
    · exact (Chart.lastWithId_spec found).1.symm
    · exact wf.chartKeys k row old

theorem WellFormed.removeMissing (wf : r.WellFormed) (repoName : String) (keep : List String) :
    (r.removeMissing repoName keep).2.WellFormed := by
  let drop : String → ChartRow → Bool := fun id row => row.repoName == repoName && !keep.contains id
  refine ⟨wf.chartsSorted.removeWhere drop, wf.reposSorted, wf.filesSorted, fun k row member => ?_⟩
  have kept := (@Table.mem_removeWhere _ r.charts drop k row).1 member
  exact wf.chartKeys k row kept.1

theorem WellFormed.deleteRepo (wf : r.WellFormed) (repoName : String) :
    (r.deleteRepo repoName).WellFormed := by
  let drop : String → ChartRow → Bool := fun _ row => row.repoName == repoName
  refine ⟨wf.chartsSorted.removeWhere drop, wf.reposSorted.removeWhere fun name _ => name == repoName,
    wf.filesSorted.removeWhere fun _ row => row.files.repo.name == repoName, fun k row member => ?_⟩
  have kept := (@Table.mem_removeWhere _ r.charts drop k row).1 member
  exact wf.chartKeys k row kept.1

theorem WellFormed.updateLastCheck (wf : r.WellFormed) (repo : Repo) (checksum : String)
    (now : Instant) : (r.updateLastCheck repo checksum now).WellFormed :=
  { wf with reposSorted := wf.reposSorted.insert _ _ }

theorem WellFormed.insertFiles (wf : r.WellFormed) (chartId : String) (files : ChartFiles) :
    (r.insertFiles chartId files).WellFormed :=
  { wf with filesSorted := wf.filesSorted.insert _ _ }

/-- An icon is set on the row of the chart under its id, which keeps its id. -/
theorem WellFormed.updateIcon (wf : r.WellFormed) {repo : Repo} {chartId : String}
    {icon : ByteArray} {contentType : String} {r' : RelationalCatalog}
    (updated : r.updateIcon repo chartId icon contentType = .ok r') : r'.WellFormed := by
  simp only [RelationalCatalog.updateIcon] at updated
  split at updated
  · rename_i row found
    split at updated
    · cases updated
      refine { wf with chartsSorted := wf.chartsSorted.insert _ _, chartKeys := fun k row' member => ?_ }
      rcases (Table.mem_insert wf.chartsSorted).1 member with ⟨rfl, rfl⟩ | ⟨kept, -⟩
      · exact wf.chartKeys _ row ((Table.get?_eq_some_iff wf.chartsSorted).1 found)
      · exact wf.chartKeys k row' kept
    · cases updated
  · cases updated

/-! ## Listings after a sync -/

theorem mem_listCharts {repoName : String} {chart : Chart} :
    chart ∈ r.listCharts repoName ↔
      ∃ k row, (k, row) ∈ r.charts.rows ∧ row.repoName = repoName ∧ row.chart = chart := by
  simp [listCharts, Table.select, and_assoc]

/-- A well-formed catalog lists a repository's charts in increasing order of ids. -/
theorem WellFormed.listCharts_pairwise (wf : r.WellFormed) (repoName : String) :
    (r.listCharts repoName).Pairwise (fun a b => a.id < b.id) := by
  unfold listCharts Table.select
  rw [List.map_map, List.pairwise_map]
  refine (List.Pairwise.filter _ wf.chartsSorted).imp_of_mem fun {a b} aMem bMem lt => ?_
  have aKey := wf.chartKeys a.1 a.2 (List.mem_of_mem_filter aMem)
  have bKey := wf.chartKeys b.1 b.2 (List.mem_of_mem_filter bMem)
  simpa [← aKey, ← bKey] using lt

/-- After a sync, the repository lists the synced charts by id. -/
theorem listCharts_sync_self (wf : r.WellFormed) (repo : Repo) (charts : List Chart) :
    ListsById charts (((r.importCharts repo charts).removeMissing repo.name
      (charts.map Chart.id)).2.listCharts repo.name) := by
  have synced := (wf.importCharts repo charts).removeMissing repo.name (charts.map Chart.id)
  refine ⟨synced.listCharts_pairwise repo.name, fun chart => ?_⟩
  rw [mem_listCharts]
  constructor
  · rintro ⟨k, row, member, owner, rfl⟩
    rcases (mem_sync wf.chartsSorted repo charts).1 member with ⟨found, last, rfl⟩ | ⟨-, -, other⟩
    · rw [(Chart.lastWithId_spec last).1]
      exact last
    · exact absurd owner other
  · intro last
    exact ⟨chart.id, ⟨repo.name, repo.ns, chart⟩,
      (mem_sync wf.chartsSorted repo charts).2 (.inl ⟨chart, last, rfl⟩), rfl, rfl⟩

/-- A sync takes from every other repository the charts whose ids it imports, and leaves
the rest of its listing as it was. -/
theorem listCharts_sync_other_filter (wf : r.WellFormed) (repo : Repo) (charts : List Chart)
    {other : String} (differs : other ≠ repo.name) :
    ((r.importCharts repo charts).removeMissing repo.name (charts.map Chart.id)).2.listCharts other =
      (r.listCharts other).filter fun chart => !(charts.map Chart.id).contains chart.id := by
  have synced := (wf.importCharts repo charts).removeMissing repo.name (charts.map Chart.id)
  unfold listCharts Table.select
  simp only [List.filter_map, List.map_map, List.filter_filter]
  congr 1
  refine Table.rows_eq_of_mem_iff (List.Pairwise.filter _ synced.chartsSorted)
    (List.Pairwise.filter _ wf.chartsSorted) fun ⟨k, row⟩ => ?_
  simp only [List.mem_filter, beq_iff_eq, Function.comp_apply, Bool.and_eq_true,
    List.contains_eq_mem, Bool.not_eq_eq_eq_not, Bool.not_true, decide_eq_false_iff_not]
  rw [mem_sync wf.chartsSorted repo charts]
  constructor
  · rintro ⟨⟨chart, -, rfl⟩ | ⟨old, fresh, -⟩, owner⟩
    · exact absurd owner.symm differs
    · rw [← wf.chartKeys k row old]
      exact ⟨old, fresh, owner⟩
  · rintro ⟨old, fresh, owner⟩
    rw [← wf.chartKeys k row old] at fresh
    exact ⟨.inr ⟨old, fresh, owner ▸ differs⟩, owner⟩

/-- A sync leaves the listing of another repository as it was, when no synced chart has
the id of one of its charts. -/
theorem listCharts_sync_other (wf : r.WellFormed) (repo : Repo) (charts : List Chart)
    {other : String} (differs : other ≠ repo.name)
    (unclaimed : ∀ chart ∈ charts, chart.id ∉ (r.listCharts other).map Chart.id) :
    ((r.importCharts repo charts).removeMissing repo.name (charts.map Chart.id)).2.listCharts other =
      r.listCharts other := by
  rw [listCharts_sync_other_filter wf repo charts differs, List.filter_eq_self]
  intro listed member
  -- a synced chart with this id would have the id of one of the other repository's charts
  simp only [List.contains_eq_mem, Bool.not_eq_eq_eq_not, Bool.not_true, decide_eq_false_iff_not,
    List.mem_map, not_exists, not_and]
  intro chart synced sameId
  exact unclaimed chart synced (sameId ▸ List.mem_map_of_mem member)

/-- A sync removes the repository's charts that are no longer listed, and counts them. -/
theorem sync_count (wf : r.WellFormed) (repo : Repo) (charts : List Chart) :
    ((r.importCharts repo charts).removeMissing repo.name (charts.map Chart.id)).1 =
      ((r.listCharts repo.name).filter fun chart => !(charts.map Chart.id).contains chart.id).length := by
  let drop : String × ChartRow → Bool := fun row =>
    row.2.repoName == repo.name && !(charts.map Chart.id).contains row.1
  have imported := wf.importCharts repo charts
  -- the rows the reconcile drops are the repository's rows from before the import
  have same : (r.importCharts repo charts).charts.rows.filter drop = r.charts.rows.filter drop := by
    refine Table.rows_eq_of_mem_iff (List.Pairwise.filter _ imported.chartsSorted)
      (List.Pairwise.filter _ wf.chartsSorted) fun ⟨k, row⟩ => ?_
    simp only [List.mem_filter]
    rw [mem_importCharts wf.chartsSorted]
    constructor
    · rintro ⟨⟨chart, found, rfl⟩ | ⟨old, -⟩, dropped⟩
      · obtain ⟨listed, member, sameId⟩ :=
          List.mem_map.1 (Chart.lastWithId_isSome.1 (by rw [found]; rfl))
        simp [drop] at dropped
        exact absurd sameId (dropped listed member)
      · exact ⟨old, dropped⟩
    · rintro ⟨old, dropped⟩
      have fresh : k ∉ charts.map Chart.id := fun listed => by
        obtain ⟨listedChart, member, sameId⟩ := List.mem_map.1 listed
        simp [drop] at dropped
        exact dropped.2 listedChart member sameId
      exact ⟨.inr ⟨old, fresh⟩, dropped⟩
  rw [removeMissing_eq]
  dsimp only
  rw [Table.removeWhere_count, show (fun row : String × ChartRow =>
    row.2.repoName == repo.name && !(charts.map Chart.id).contains row.1) = drop from rfl, same]
  unfold listCharts Table.select
  rw [List.map_map, List.filter_map, List.length_map, List.filter_filter]
  congr 1
  refine List.filter_congr fun ⟨k, row⟩ member => ?_
  simp [drop, wf.chartKeys k row member, Bool.and_comm]

/-! ## Deleting a repository -/

theorem listCharts_deleteRepo (repoName name : String) :
    (r.deleteRepo repoName).listCharts name = if name = repoName then [] else r.listCharts name := by
  unfold listCharts deleteRepo
  rw [Table.select_removeWhere]
  by_cases target : name = repoName
  · subst target
    simp [Table.select]
  · rw [if_neg target]
    unfold Table.select
    congr 2
    refine List.filter_congr fun entry _ => ?_
    obtain ⟨k, row⟩ := entry
    by_cases owner : row.repoName = name
    · simp [owner, target]
    · simp [owner]

theorem getCheckpoint_deleteRepo (sorted : r.repos.Sorted) (repoName name : String) :
    (r.deleteRepo repoName).getCheckpoint name =
      if name = repoName then .ok none else r.getCheckpoint name := by
  have found : (r.deleteRepo repoName).repos.get? name =
      (r.repos.get? name).filter fun _ => !(name == repoName) :=
    Table.get?_removeWhere sorted (fun name _ => name == repoName) name
  unfold getCheckpoint
  rw [found]
  by_cases target : name = repoName
  · simp [target]
  · have kept : (name == repoName) = false := beq_false_of_ne target
    cases r.repos.get? name <;> simp [Option.filter, kept, target]

theorem getFiles_deleteRepo (sorted : r.files.Sorted) (repoName filesId : String) :
    (r.deleteRepo repoName).getFiles filesId =
      (r.getFiles filesId).filter fun files => files.repo.name != repoName := by
  have found : (r.deleteRepo repoName).files.get? filesId =
      (r.files.get? filesId).filter fun row => !(row.files.repo.name == repoName) :=
    Table.get?_removeWhere sorted (fun _ row => row.files.repo.name == repoName) filesId
  unfold getFiles
  rw [found]
  cases r.files.get? filesId with
  | none => rfl
  | some row => by_cases owner : row.files.repo.name = repoName <;> simp [Option.filter, owner]

end RelationalCatalog

namespace Mirrors

variable {r : RelationalCatalog} {d : DocumentCatalog}

theorem wellFormed (mirror : Mirrors r d) : r.WellFormed := by
  refine ⟨mirror.chartsSorted, mirror.reposSorted, mirror.filesSorted, fun k row member => ?_⟩
  obtain ⟨doc, -, stored⟩ := mirror.charts.exists_of_mem_left member
  exact stored.key_eq

/-- In a mirrored document catalog, the checkpoint documents under a name are found by it. -/
theorem findOne_checkpoint (mirror : Mirrors r d) (name : String) :
    d.repos.findOne (Filter.onId name) = d.repos.docs.get? name := by
  rw [Collection.findOne_of_key mirror.repos mirror.reposSorted (Filter.onId name) name
    (fun _ => true) fun k row doc stored => by simp [stored.matches_onId]]
  cases d.repos.docs.get? name <;> rfl

/-- Deleting a repository removes its checkpoint document and keeps every other one. -/
theorem getCheckpoint_deleteRepo (mirror : Mirrors r d) (repoName name : String) :
    (d.deleteRepo repoName).getCheckpoint name =
      if name = repoName then .ok none else d.getCheckpoint name := by
  have kept : (d.deleteRepo repoName).repos.docs.get? name =
      (d.repos.docs.get? name).filter fun doc => !(Filter.onId repoName).matches doc :=
    Table.get?_removeWhere (mirror.repos.sorted mirror.reposSorted)
      (fun _ doc => (Filter.onId repoName).matches doc) name
  simp only [DocumentCatalog.getCheckpoint, (mirror.deleteRepo repoName).findOne_checkpoint,
    mirror.findOne_checkpoint, kept]
  -- the document under the name is selected by the deleted name exactly when they agree
  rcases Table.rel_cases (mirror.repos.get? name) with ⟨-, none'⟩ | ⟨row, doc, -, some', stored⟩
  · rw [none']
    split <;> rfl
  · rw [some']
    simp only [Option.filter, stored.matches_onId repoName]
    by_cases target : name = repoName <;> simp [target]

end Mirrors

/-! ## Every reachable catalog is well formed -/

/-- A catalog as its operations leave it: a well-formed relational catalog, or a document
catalog that a relational catalog mirrors. -/
def Catalog.WellFormed : Catalog → Prop
  | .relational r => r.WellFormed
  | .documents d => ∃ r, Mirrors r d

/-- An operation that reads leaves the catalog as it was. -/
theorem Catalog.eq_of_read {α : Type} {c c' : Catalog} {o : Outcome α} {f : α → CatalogAnswer}
    {answer : CatalogAnswer} (ran : o.map (fun a => (f a, c)) = .ok (answer, c')) : c' = c := by
  cases o with
  | error e => cases ran
  | ok a =>
    cases ran
    rfl

theorem RelationalCatalog.WellFormed.run {r : RelationalCatalog} (wf : r.WellFormed)
    {op : CatalogOp} {answer : CatalogAnswer} {c' : Catalog}
    (ran : (Catalog.relational r).run op = .ok (answer, c')) : c'.WellFormed := by
  cases op with
  | importCharts repo charts =>
    cases ran
    exact wf.importCharts repo charts
  | removeMissing repoName keep =>
    cases ran
    exact wf.removeMissing repoName keep
  | sync repo charts =>
    cases ran
    exact (wf.importCharts repo charts).removeMissing _ _
  | updateLastCheck repo checksum now =>
    cases ran
    exact wf.updateLastCheck repo checksum now
  | deleteRepo repoName =>
    cases ran
    exact wf.deleteRepo repoName
  | insertFiles chartId files =>
    cases ran
    exact wf.insertFiles chartId files
  | updateIcon repo chartId icon contentType =>
    cases updated : r.updateIcon repo chartId icon contentType with
    | error e => simp [Catalog.run, Catalog.updateIcon, updated, Except.map] at ran
    | ok r' =>
      simp only [Catalog.run, Catalog.updateIcon, updated, Except.map, Except.ok.injEq,
        Prod.mk.injEq] at ran
      rw [← ran.2]
      exact wf.updateIcon updated
  | alreadyProcessed | filesExist =>
    cases ran
    exact wf
  | getChart | listCharts | getFiles | getCheckpoint =>
    simp only [Catalog.run] at ran
    rw [Catalog.eq_of_read ran]
    exact wf

theorem Mirrors.wellFormed_run {r : RelationalCatalog} {d : DocumentCatalog} (mirror : Mirrors r d)
    {op : CatalogOp} (admissible : op.Admissible) {answer : CatalogAnswer} {c' : Catalog}
    (ran : (Catalog.documents d).run op = .ok (answer, c')) : c'.WellFormed := by
  cases op with
  | importCharts repo charts =>
    obtain ⟨d', imported, mirror'⟩ := mirror.importCharts admissible
    simp only [Catalog.run, Catalog.importCharts, imported] at ran
    cases ran
    exact ⟨_, mirror'⟩
  | removeMissing repoName keep =>
    cases ran
    exact ⟨_, (mirror.removeMissing repoName keep).2⟩
  | sync repo charts =>
    obtain ⟨d', imported, mirror'⟩ := mirror.importCharts admissible
    simp only [Catalog.run, Catalog.sync, Catalog.importCharts, imported] at ran
    cases ran
    exact ⟨_, (mirror'.removeMissing repo.name (charts.map Chart.id)).2⟩
  | updateLastCheck repo checksum now =>
    obtain ⟨d', written, mirror'⟩ := mirror.updateLastCheck repo checksum admissible.1
    simp only [Catalog.run, Catalog.updateLastCheck, written] at ran
    cases ran
    exact ⟨_, mirror'⟩
  | deleteRepo repoName =>
    cases ran
    exact ⟨_, mirror.deleteRepo repoName⟩
  | insertFiles chartId files =>
    obtain ⟨d', written, mirror'⟩ := mirror.insertFiles chartId files
    simp only [Catalog.run, Catalog.insertFiles, written] at ran
    cases ran
    exact ⟨_, mirror'⟩
  | updateIcon repo chartId icon contentType =>
    rcases mirror.updateIcon repo chartId icon contentType with
      ⟨r', d', -, updated, mirror'⟩ | ⟨e, -, failed⟩
    · simp only [Catalog.run, Catalog.updateIcon, updated] at ran
      cases ran
      exact ⟨_, mirror'⟩
    · simp [Catalog.run, Catalog.updateIcon, failed, Except.map] at ran
  | alreadyProcessed | filesExist =>
    cases ran
    exact ⟨_, mirror⟩
  | getChart | listCharts | getFiles | getCheckpoint =>
    simp only [Catalog.run] at ran
    rw [Catalog.eq_of_read ran]
    exact ⟨_, mirror⟩

namespace Catalog

theorem WellFormed.emptyRelational : emptyRelational.WellFormed :=
  ⟨.empty, .empty, .empty, fun _ _ member => absurd member List.not_mem_nil⟩

theorem WellFormed.emptyDocuments : emptyDocuments.WellFormed := ⟨_, Mirrors.empty⟩

/-- Every admissible operation that succeeds leaves a well-formed catalog well formed. -/
theorem WellFormed.run {c : Catalog} (wf : c.WellFormed) {op : CatalogOp} (admissible : op.Admissible)
    {answer : CatalogAnswer} {c' : Catalog} (ran : c.run op = .ok (answer, c')) : c'.WellFormed := by
  cases c with
  | relational r => exact RelationalCatalog.WellFormed.run wf ran
  | documents d =>
    obtain ⟨r, mirror⟩ := wf
    exact mirror.wellFormed_run admissible ran

/-- Every catalog that a session of admissible operations reaches from a well-formed one is
well formed, and so every catalog reached from an empty one. -/
theorem WellFormed.runAll {c : Catalog} (wf : c.WellFormed) {ops : List CatalogOp}
    (admissible : ∀ op ∈ ops, op.Admissible) : (c.runAll ops).2.WellFormed := by
  induction ops generalizing c with
  | nil => exact wf
  | cons op rest ih =>
    have later : ∀ op ∈ rest, op.Admissible := fun op member =>
      admissible op (List.mem_cons_of_mem _ member)
    rcases ran : c.run op with e | ⟨answer, next⟩
    · simp only [Catalog.runAll, ran]
      exact ih wf later
    · simp only [Catalog.runAll, ran]
      exact ih (wf.run (admissible op List.mem_cons_self) ran) later

/-- What syncing a repository's charts does to a catalog. It counts the repository's charts
whose ids are no longer listed; the repository then holds the listed charts by id; the
charts of another repository stay as they were when no listed chart has the id of one of
them; and no chart files or checkpoint change. -/
structure Reconciled (c c' : Catalog) (repo : Repo) (charts : List Chart) (removed : Nat) :
    Prop where
  count : ∃ before, c.listCharts repo.name = .ok before ∧
    removed = (before.filter fun chart => !(charts.map Chart.id).contains chart.id).length
  listed : ∃ after, c'.listCharts repo.name = .ok after ∧ ListsById charts after
  others : ∀ other, other ≠ repo.name →
    (∀ listing, c.listCharts other = .ok listing → ∀ chart ∈ charts, chart.id ∉ listing.map Chart.id) →
      c'.listCharts other = c.listCharts other
  files : ∀ filesId, c'.getFiles filesId = c.getFiles filesId
  checkpoints : ∀ name, c'.getCheckpoint name = c.getCheckpoint name

/-- What deleting a repository does to a catalog: the repository lists no chart and has no
checkpoint, its chart files are gone, and every other repository keeps what it had. -/
structure RepoDeleted (c c' : Catalog) (repoName : String) : Prop where
  charts : ∀ name, c'.listCharts name = if name = repoName then .ok [] else c.listCharts name
  files : ∀ filesId, ∃ files, c.getFiles filesId = .ok files ∧
    c'.getFiles filesId = .ok (files.filter fun f => f.repo.name != repoName)
  checkpoints : ∀ name,
    c'.getCheckpoint name = if name = repoName then .ok none else c.getCheckpoint name

variable {c c' : Catalog} {r : RelationalCatalog}

/-- A catalog that lists charts as a well-formed relational catalog does is reconciled by a
sync into one that lists them as the synced relational catalog, when its chart files and
checkpoints stay. -/
theorem reconciled_of_lists (wf : r.WellFormed) {repo : Repo} {charts : List Chart}
    (lists : ∀ name, c.listCharts name = .ok (r.listCharts name))
    (lists' : ∀ name, c'.listCharts name = .ok (((r.importCharts repo charts).removeMissing
      repo.name (charts.map Chart.id)).2.listCharts name))
    (files : ∀ filesId, c'.getFiles filesId = c.getFiles filesId)
    (checkpoints : ∀ name, c'.getCheckpoint name = c.getCheckpoint name) :
    Reconciled c c' repo charts
      ((r.importCharts repo charts).removeMissing repo.name (charts.map Chart.id)).1 := by
  refine ⟨⟨_, lists repo.name, RelationalCatalog.sync_count wf repo charts⟩,
    ⟨_, lists' repo.name, RelationalCatalog.listCharts_sync_self wf repo charts⟩,
    fun other differs unclaimed => ?_, files, checkpoints⟩
  rw [lists', lists, RelationalCatalog.listCharts_sync_other wf repo charts differs
    (unclaimed _ (lists other))]

/-- A catalog that lists charts and chart files as a well-formed relational catalog does
has a repository deleted when it then lists them as that catalog with the repository
deleted, and drops exactly the repository's checkpoint. -/
theorem repoDeleted_of_answers (wf : r.WellFormed) {repoName : String}
    (lists : ∀ name, c.listCharts name = .ok (r.listCharts name))
    (lists' : ∀ name, c'.listCharts name = .ok ((r.deleteRepo repoName).listCharts name))
    (files : ∀ filesId, c.getFiles filesId = .ok (r.getFiles filesId))
    (files' : ∀ filesId, c'.getFiles filesId = .ok ((r.deleteRepo repoName).getFiles filesId))
    (checkpoints : ∀ name,
      c'.getCheckpoint name = if name = repoName then .ok none else c.getCheckpoint name) :
    RepoDeleted c c' repoName := by
  refine ⟨fun name => ?_, fun filesId => ⟨_, files filesId, ?_⟩, checkpoints⟩
  · rw [lists', lists, RelationalCatalog.listCharts_deleteRepo]
    split <;> rfl
  · rw [files', RelationalCatalog.getFiles_deleteRepo wf.filesSorted]

theorem WellFormed.sync (wf : c.WellFormed) (repo : Repo) (charts : List Chart)
    (owned : ∀ chart ∈ charts, chart.repo = repo.reference ∧ chart.TimesValid) :
    ∃ removed c', c.sync repo charts = .ok (removed, c') ∧ c'.WellFormed ∧
      Reconciled c c' repo charts removed := by
  cases c with
  | relational r =>
    have wf : r.WellFormed := wf
    exact ⟨_, _, rfl, (wf.importCharts repo charts).removeMissing _ _,
      reconciled_of_lists wf (fun _ => rfl) (fun _ => rfl) (fun _ => rfl) (fun _ => rfl)⟩
  | documents d =>
    obtain ⟨r, mirror⟩ := wf
    obtain ⟨d', imported, mirror'⟩ := mirror.importCharts owned
    obtain ⟨count, synced⟩ := mirror'.removeMissing repo.name (charts.map Chart.id)
    -- an import writes charts only
    have kept : d'.repos = d.repos ∧ d'.files = d.files := by
      rw [DocumentCatalog.importCharts_eq] at imported
      cases imported
      exact ⟨rfl, rfl⟩
    have reconciled : Reconciled (.documents d)
        (.documents (d'.removeMissing repo.name (charts.map Chart.id)).2) repo charts _ :=
      reconciled_of_lists mirror.wellFormed mirror.listCharts synced.listCharts
        (fun filesId => by
          simp [getFiles, DocumentCatalog.getFiles, DocumentCatalog.removeMissing_eq, kept.2])
        (fun name => by
          simp [getCheckpoint, DocumentCatalog.getCheckpoint, DocumentCatalog.removeMissing_eq, kept.1])
    rw [count] at reconciled
    refine ⟨_, .documents (d'.removeMissing repo.name (charts.map Chart.id)).2, ?_, ⟨_, synced⟩,
      reconciled⟩
    simp only [Catalog.sync, Catalog.importCharts, imported]
    rfl

/-- A sync of a well-formed catalog of either backend takes from every other repository the
charts whose ids it imports, and leaves the rest of its listing as it was. -/
theorem WellFormed.listCharts_sync_other (wf : c.WellFormed) {repo : Repo} {charts : List Chart}
    (owned : ∀ chart ∈ charts, chart.repo = repo.reference ∧ chart.TimesValid) {removed : Nat}
    (synced : c.sync repo charts = .ok (removed, c')) {other : String} (differs : other ≠ repo.name) :
    c'.listCharts other =
      (c.listCharts other).map (List.filter fun chart => !(charts.map Chart.id).contains chart.id) := by
  cases c with
  | relational r =>
    have wf : r.WellFormed := wf
    simp only [Catalog.sync, Catalog.importCharts, ok_bind, Catalog.removeMissing, pure_eq_ok,
      Except.ok.injEq, Prod.mk.injEq] at synced
    rw [← synced.2]
    exact congrArg Except.ok (RelationalCatalog.listCharts_sync_other_filter wf repo charts differs)
  | documents d =>
    obtain ⟨r, mirror⟩ := wf
    obtain ⟨d', imported, mirror'⟩ := mirror.importCharts owned
    simp only [Catalog.sync, Catalog.importCharts, imported, Except.map, ok_bind,
      Catalog.removeMissing, pure_eq_ok, Except.ok.injEq, Prod.mk.injEq] at synced
    rw [← synced.2]
    simp only [listCharts, (mirror'.removeMissing repo.name (charts.map Chart.id)).2.listCharts,
      mirror.listCharts, RelationalCatalog.listCharts_sync_other_filter mirror.wellFormed repo charts differs]
    rfl

theorem WellFormed.deleteRepo (wf : c.WellFormed) (repoName : String) :
    (c.deleteRepo repoName).WellFormed ∧ RepoDeleted c (c.deleteRepo repoName) repoName := by
  cases c with
  | relational r =>
    have wf : r.WellFormed := wf
    exact ⟨wf.deleteRepo repoName, repoDeleted_of_answers wf (fun _ => rfl) (fun _ => rfl)
      (fun _ => rfl) (fun _ => rfl) (RelationalCatalog.getCheckpoint_deleteRepo wf.reposSorted repoName)⟩
  | documents d =>
    obtain ⟨r, mirror⟩ := wf
    have deleted := mirror.deleteRepo repoName
    exact ⟨⟨_, deleted⟩, repoDeleted_of_answers mirror.wellFormed mirror.listCharts
      deleted.listCharts mirror.getFiles deleted.getFiles (mirror.getCheckpoint_deleteRepo repoName)⟩

end Catalog

/-- Syncing a repository into a well-formed catalog of either backend is exact, and it and
deleting the repository are scoped to the repository. -/
theorem reconcile_scoped_to_repository (c : Catalog) (wf : c.WellFormed) (repo : Repo)
    (charts : List Chart) (owned : ∀ chart ∈ charts, chart.repo = repo.reference ∧ chart.TimesValid) :
    (∃ removed c', c.sync repo charts = .ok (removed, c') ∧ c'.WellFormed ∧
      Catalog.Reconciled c c' repo charts removed) ∧
      (c.deleteRepo repo.name).WellFormed ∧ Catalog.RepoDeleted c (c.deleteRepo repo.name) repo.name :=
  ⟨wf.sync repo charts owned, wf.deleteRepo repo.name⟩

/-- A relational catalog holding the charts `nginx` and `redis` of one repository and `x` of
another: syncing the first to `nginx` alone removes `redis` and leaves `x`, and so does
deleting the first. -/
theorem reconcile_scoped_beside_another_repository :
    let repo : Repo := ⟨"test", "default", "http://r.test/charts", none⟩
    let other : Repo := ⟨"other", "default", "http://o.test/charts", none⟩
    let nginx : Chart := ⟨"test/nginx", "nginx", repo.reference, "", "", [], [], [], "", none, none, []⟩
    let redis : Chart := ⟨"test/redis", "redis", repo.reference, "", "", [], [], [], "", none, none, []⟩
    let kept : Chart := ⟨"other/x", "x", other.reference, "", "", [], [], [], "", none, none, []⟩
    let c : Catalog :=
      .relational ((RelationalCatalog.empty.importCharts repo [nginx, redis]).importCharts other [kept])
    c.WellFormed ∧ (∀ chart ∈ [nginx], chart.repo = repo.reference ∧ chart.TimesValid) ∧
      c.listCharts "other" = .ok [kept] ∧
      (∃ c', c.sync repo [nginx] = .ok (1, c') ∧ c'.listCharts "test" = .ok [nginx] ∧
        c'.listCharts "other" = .ok [kept]) ∧
      (c.deleteRepo "test").listCharts "other" = .ok [kept] ∧
      (∃ removed c', c.sync repo [nginx] = .ok (removed, c') ∧ c'.WellFormed ∧
        Catalog.Reconciled c c' repo [nginx] removed) ∧
      (c.deleteRepo repo.name).WellFormed ∧ Catalog.RepoDeleted c (c.deleteRepo repo.name) repo.name := by
  intro repo other nginx redis kept c
  have wf : c.WellFormed :=
    RelationalCatalog.WellFormed.importCharts
      (RelationalCatalog.WellFormed.importCharts Catalog.WellFormed.emptyRelational repo _) other _
  have owned : ∀ chart ∈ [nginx], chart.repo = repo.reference ∧ chart.TimesValid := by
    intro chart listed
    rw [List.mem_singleton] at listed
    subst listed
    exact ⟨rfl, fun v noVersion => absurd noVersion List.not_mem_nil⟩
  -- the sync removes `redis` from its repository, and neither it nor the deletion touches `x`
  have evaluated : c.listCharts "other" = .ok [kept] ∧
      (∃ c', c.sync repo [nginx] = .ok (1, c') ∧ c'.listCharts "test" = .ok [nginx] ∧
        c'.listCharts "other" = .ok [kept]) ∧
      (c.deleteRepo "test").listCharts "other" = .ok [kept] := by
    dsimp only [c, repo, other, nginx, redis, kept]
    exact ⟨rfl, ⟨_, rfl, rfl, rfl⟩, rfl⟩
  exact ⟨wf, owned, evaluated.1, evaluated.2.1, evaluated.2.2,
    reconcile_scoped_to_repository c wf repo [nginx] owned⟩

/-- Chart ids join names with `/`, so the chart `c` of the repository `a/b` and the chart
`b/c` of the repository `a` have one id: syncing `a` takes the chart over, and `a/b` no
longer lists it. -/
theorem sync_takes_over_nested_chart :
    let nested : Repo := ⟨"a/b", "default", "", none⟩
    let outer : Repo := ⟨"a", "default", "", none⟩
    let chart : Chart := ⟨chartId "a/b" "c", "c", nested.reference, "", "", [], [], [], "", none, none, []⟩
    let clash : Chart := ⟨chartId "a" "b/c", "b/c", outer.reference, "", "", [], [], [], "", none, none, []⟩
    ∃ c c', Catalog.emptyRelational.sync nested [chart] = .ok (0, c) ∧
      c.listCharts "a/b" = .ok [chart] ∧ c.sync outer [clash] = .ok (0, c') ∧
      c'.listCharts "a/b" = .ok [] := by
  intro nested outer chart clash
  simp [nested, outer, chart, clash, chartId, Catalog.sync, Catalog.importCharts,
    Catalog.removeMissing, Catalog.emptyRelational, Catalog.listCharts, RelationalCatalog.empty,
    RelationalCatalog.importCharts, RelationalCatalog.removeMissing, RelationalCatalog.listCharts,
    Table.empty, Table.insert, Table.insertRow, Table.removeWhere, Table.select]

end ChartCatalog
