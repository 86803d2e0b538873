import ChartCatalog.Proofs.Store.Mirror

/-!
# Both catalog backends answer alike

A session runs operations on a catalog one after another (`Catalog.runAll`): each answers
or fails, and one that fails leaves the catalog as it was. Run from empty catalogs, the
relational and the document backend give the same answers at every step, and each
relational table has as many rows as the document collection of its name
(`backends_answer_alike`), in every session of admissible operations
(`CatalogOp.Admissible`): charts are imported with the repository they name and have valid
instants, and every checkpoint instant is a valid instant of a year from 0 to 9999.

The step is `Mirrors.run`: an operation on mirrored catalogs answers alike and leaves them
mirrored (`RunsAlike`). It is assembled from the lemmas of `Mirrors`, one per operation.

The last condition cannot be dropped. The relational catalog writes a checkpoint's instant
as timestamp text and reads it back strictly, and a year outside 0 to 9999 has no
four-digit form: a checkpoint of the year -1 is written, but reading it fails where the
document catalog reads it back (`checkpoint_before_year_zero`).
-/

set_option autoImplicit false

namespace ChartCatalog

/-- Runs operations one after another: the answers in order, and the catalog after the
last. An operation that fails leaves the catalog as it was. -/
def Catalog.runAll (c : Catalog) : List CatalogOp → List (Outcome CatalogAnswer) × Catalog
  | [] => ([], c)
  | op :: ops =>
    match c.run op with
    | .ok (answer, next) =>
      let rest := next.runAll ops
      (.ok answer :: rest.1, rest.2)
    | .error e =>
      let rest := c.runAll ops
      (.error e :: rest.1, rest.2)

/-- The operations on which both backends are to agree: charts are imported with the
repository they name and have valid instants, and every checkpoint instant is valid and
has a four-digit year. -/
def CatalogOp.Admissible : CatalogOp → Prop
  | .importCharts repo charts => ∀ chart ∈ charts, chart.repo = repo.reference ∧ chart.TimesValid
  | .sync repo charts => ∀ chart ∈ charts, chart.repo = repo.reference ∧ chart.TimesValid
  | .updateLastCheck _ _ now => now.Valid ∧ 0 ≤ now.date.year ∧ now.date.year ≤ 9999
  | _ => True

/-- One operation run on a relational and on a document catalog: the same answer and
mirrored catalogs after it, whose checkpoints read back, or the same error. -/
def RunsAlike : Outcome (CatalogAnswer × Catalog) → Outcome (CatalogAnswer × Catalog) → Prop
  | .ok (a, .relational r), .ok (b, .documents d) => a = b ∧ Mirrors r d ∧ r.CheckpointsReadable
  | .error e, .error e' => e = e'
  | _, _ => False

/-! ## Checkpoints that read back -/

namespace RelationalCatalog

variable {r : RelationalCatalog}

theorem CheckpointsReadable.empty : RelationalCatalog.empty.CheckpointsReadable :=
  fun _ _ member => absurd member List.not_mem_nil

/-- A checkpoint of a valid instant with a four-digit year reads back. -/
theorem CheckpointsReadable.updateLastCheck (readable : r.CheckpointsReadable) (sorted : r.repos.Sorted)
    (repo : Repo) (checksum : String) {now : Instant} (valid : now.Valid)
    (yearFrom : 0 ≤ now.date.year) (yearTo : now.date.year ≤ 9999) :
    (r.updateLastCheck repo checksum now).CheckpointsReadable := by
  intro k row member
  rcases (Table.mem_insert sorted).1 member with ⟨-, rfl⟩ | ⟨kept, -⟩
  · simp [Instant.parseStrict?_textWithOffset valid yearFrom yearTo]
  · exact readable k row kept

theorem CheckpointsReadable.deleteRepo (readable : r.CheckpointsReadable) (repoName : String) :
    (r.deleteRepo repoName).CheckpointsReadable := by
  intro k row member
  have kept := (@Table.mem_removeWhere _ r.repos (fun name _ => name == repoName) k row).1 member
  exact readable k row kept.1

/-- An icon update changes charts only. -/
theorem updateIcon_repos {repo : Repo} {chartId : String} {icon : ByteArray} {contentType : String}
    {r' : RelationalCatalog} (updated : r.updateIcon repo chartId icon contentType = .ok r') :
    r'.repos = r.repos := by
  simp only [updateIcon] at updated
  split at updated
  · split at updated
    · cases updated
      rfl
    · cases updated
  · cases updated

end RelationalCatalog

namespace Mirrors

variable {r : RelationalCatalog} {d : DocumentCatalog}

/-- An answer read from mirrored catalogs leaves them as they were. -/
theorem runsAlike_read (mirror : Mirrors r d) (readable : r.CheckpointsReadable)
    (answer : CatalogAnswer) :
    RunsAlike (.ok (answer, .relational r)) (.ok (answer, .documents d)) :=
  ⟨rfl, mirror, readable⟩

/-- A sync imports alike, then reconciles alike. -/
theorem sync (mirror : Mirrors r d) (readable : r.CheckpointsReadable) {repo : Repo}
    {charts : List Chart} (owned : ∀ chart ∈ charts, chart.repo = repo.reference ∧ chart.TimesValid) :
    RunsAlike ((Catalog.relational r).run (.sync repo charts))
      ((Catalog.documents d).run (.sync repo charts)) := by
  obtain ⟨d', imported, mirror'⟩ := mirror.importCharts owned
  obtain ⟨count, mirror''⟩ := mirror'.removeMissing repo.name (charts.map Chart.id)
  simp only [Catalog.run, Catalog.sync, Catalog.importCharts, imported, Catalog.removeMissing]
  exact ⟨by rw [count], mirror'', readable⟩

/-- Every admissible operation on mirrored catalogs whose checkpoints read back answers
alike and leaves them so. -/
theorem run (mirror : Mirrors r d) (readable : r.CheckpointsReadable) {op : CatalogOp}
    (admissible : op.Admissible) :
    RunsAlike ((Catalog.relational r).run op) ((Catalog.documents d).run op) := by
  cases op with
  | importCharts repo charts =>
    obtain ⟨d', imported, mirror'⟩ := mirror.importCharts admissible
    simp only [Catalog.run, Catalog.importCharts, imported]
    exact runsAlike_read mirror' readable .done
  | removeMissing repoName keep =>
    obtain ⟨count, mirror'⟩ := mirror.removeMissing repoName keep
    simp only [Catalog.run, Catalog.removeMissing]
    exact ⟨by rw [count], mirror', readable⟩
  | sync repo charts => exact mirror.sync readable admissible
  | alreadyProcessed repoName checksum =>
    simp only [Catalog.run, Catalog.alreadyProcessed, mirror.alreadyProcessed]
    exact runsAlike_read mirror readable _
  | updateLastCheck repo checksum now =>
    obtain ⟨valid, yearFrom, yearTo⟩ := admissible
    obtain ⟨d', written, mirror'⟩ := mirror.updateLastCheck repo checksum valid
    simp only [Catalog.run, Catalog.updateLastCheck, written]
    exact runsAlike_read mirror'
      (readable.updateLastCheck mirror.reposSorted repo checksum valid yearFrom yearTo) .done
  | deleteRepo repoName =>
    exact runsAlike_read (mirror.deleteRepo repoName) (readable.deleteRepo repoName) .done
  | filesExist filesId repoName ns digest =>
    simp only [Catalog.run, Catalog.filesExist, mirror.filesExist]
    exact runsAlike_read mirror readable _
  | insertFiles chartId files =>
    obtain ⟨d', written, mirror'⟩ := mirror.insertFiles chartId files
    simp only [Catalog.run, Catalog.insertFiles, written]
    exact runsAlike_read mirror' readable .done
  | updateIcon repo chartId icon contentType =>
    simp only [Catalog.run, Catalog.updateIcon]
    rcases mirror.updateIcon repo chartId icon contentType with
      ⟨r', d', updated, updated', mirror'⟩ | ⟨e, failed, failed'⟩
    · have sameRepos := RelationalCatalog.updateIcon_repos updated
      rw [updated, updated']
      exact runsAlike_read mirror' (fun k row member => readable k row (sameRepos ▸ member)) .done
    · rw [failed, failed']
      exact rfl
  | getChart chartId =>
    simp only [Catalog.run, Catalog.getChart, mirror.getChart]
    exact runsAlike_read mirror readable _
  | listCharts repoName =>
    simp only [Catalog.run, Catalog.listCharts, mirror.listCharts]
    exact runsAlike_read mirror readable _
  | getFiles filesId =>
    simp only [Catalog.run, Catalog.getFiles, mirror.getFiles]
    exact runsAlike_read mirror readable _
  | getCheckpoint repoName =>
    simp only [Catalog.run, Catalog.getCheckpoint, mirror.getCheckpoint readable]
    cases r.getCheckpoint repoName with
    | error e => exact rfl
    | ok checkpoint => exact runsAlike_read mirror readable _

/-- A session of admissible operations on mirrored catalogs whose checkpoints read back
gives the same answers and ends in mirrored catalogs. -/
theorem runAll (mirror : Mirrors r d) (readable : r.CheckpointsReadable) {ops : List CatalogOp}
    (admissible : ∀ op ∈ ops, op.Admissible) :
    ((Catalog.relational r).runAll ops).1 = ((Catalog.documents d).runAll ops).1 ∧
      ∃ r' d', ((Catalog.relational r).runAll ops).2 = .relational r' ∧
        ((Catalog.documents d).runAll ops).2 = .documents d' ∧ Mirrors r' d' := by
  induction ops generalizing r d with
  | nil => exact ⟨rfl, r, d, rfl, rfl, mirror⟩
  | cons op rest ih =>
    have later : ∀ op ∈ rest, op.Admissible := fun op member =>
      admissible op (List.mem_cons_of_mem _ member)
    have step := mirror.run readable (admissible op List.mem_cons_self)
    -- the step's outcomes decide which catalogs the rest of the session runs on
    rcases ranRelational : (Catalog.relational r).run op with e | ⟨a, _ | d₁⟩ <;>
      rcases ranDocuments : (Catalog.documents d).run op with e' | ⟨b, r₂ | d'⟩ <;>
      rw [ranRelational, ranDocuments] at step <;> try exact step.elim
    · have same : e = e' := step
      obtain ⟨answersRest, finalRest⟩ := ih mirror readable later
      simp only [Catalog.runAll, ranRelational, ranDocuments, same]
      exact ⟨by rw [answersRest], finalRest⟩
    · rename_i r'
      obtain ⟨same, mirror', readable'⟩ := step
      obtain ⟨answersRest, finalRest⟩ := ih mirror' readable' later
      simp only [Catalog.runAll, ranRelational, ranDocuments, same]
      exact ⟨by rw [answersRest], finalRest⟩

end Mirrors

/-- From empty catalogs, the relational and the document backend give the same answers to
every session of admissible operations, and each relational table ends with as many rows
as the document collection of its name. -/
theorem backends_answer_alike (ops : List CatalogOp) (admissible : ∀ op ∈ ops, op.Admissible) :
    (Catalog.emptyRelational.runAll ops).1 = (Catalog.emptyDocuments.runAll ops).1 ∧
      ∃ r d, (Catalog.emptyRelational.runAll ops).2 = .relational r ∧
        (Catalog.emptyDocuments.runAll ops).2 = .documents d ∧
        ∀ table c, d.collection? table = some c → r.countRows table = .ok c.size := by
  obtain ⟨answers, r, d, last, last', mirror⟩ :=
    Mirrors.empty.runAll RelationalCatalog.CheckpointsReadable.empty admissible
  exact ⟨answers, r, d, last, last', fun _ _ named => mirror.countRows named⟩

/-- A session that syncs a chart, lists it, records a checkpoint and reads it back is
admissible, and both backends answer it alike. -/
theorem backends_answer_alike_session :
    let repo : Repo := ⟨"test", "default", "http://r.test/charts", none⟩
    let chart : Chart := ⟨"test/nginx", "nginx", repo.reference, "", "", [], [], [], "", none, none, []⟩
    let ops := [CatalogOp.sync repo [chart], .listCharts "test",
      .updateLastCheck repo "z" ⟨0, 0, 0⟩, .getCheckpoint "test"]
    (∀ op ∈ ops, op.Admissible) ∧
      (Catalog.emptyRelational.runAll ops).1 = (Catalog.emptyDocuments.runAll ops).1 ∧
      ∃ r d, (Catalog.emptyRelational.runAll ops).2 = .relational r ∧
        (Catalog.emptyDocuments.runAll ops).2 = .documents d ∧
        ∀ table c, d.collection? table = some c → r.countRows table = .ok c.size := by
  intro repo chart ops
  have admissible : ∀ op ∈ ops, op.Admissible := by
    intro op member
    simp only [ops, List.mem_cons, List.not_mem_nil, or_false] at member
    rcases member with rfl | rfl | rfl | rfl
    · intro imported listed
      rw [List.mem_singleton] at listed
      subst listed
      exact ⟨rfl, fun v noVersion => absurd noVersion List.not_mem_nil⟩
    · trivial
    · exact ⟨⟨by decide, by decide, by decide, by decide, by decide⟩, by decide, by decide⟩
    · trivial
  exact ⟨admissible, backends_answer_alike ops admissible⟩

/-- The relational catalog writes a checkpoint of the year -1 but cannot read it back,
where the document catalog reads it back: the half hour before the year 0 begins. -/
theorem checkpoint_before_year_zero :
    let repo : Repo := ⟨"test", "default", "", none⟩
    let now : Instant := ⟨-719529, 84600, 0⟩
    let ops := [CatalogOp.updateLastCheck repo "z" now, .getCheckpoint "test"]
    (Catalog.emptyRelational.runAll ops).1 =
        [.ok .done, .error (.store "Invalid checkpoint timestamp: input contains invalid characters")] ∧
      (Catalog.emptyDocuments.runAll ops).1 =
        [.ok .done, .ok (.checkpoint (some ⟨"test", "default", "z", now⟩))] := by
  intro repo now ops
  have valid : now.Valid := ⟨by decide, by decide, by decide, by decide, by decide⟩
  have beforeZero : now.date.year < 0 := by decide
  have found : (Filter.onId "test").matches (⟨"test", "default", "z", now⟩ : Checkpoint).document :=
    by rw [Filter.onId, Filter.matches_eq_of_walk? (walk?_single (Checkpoint.get?_document _).1)]; rfl
  constructor
  · simp [ops, repo, Except.map, Catalog.runAll, Catalog.run, Catalog.emptyRelational,
      Catalog.updateLastCheck,
      RelationalCatalog.updateLastCheck, Catalog.getCheckpoint, RelationalCatalog.getCheckpoint,
      RelationalCatalog.empty, Table.insert, Table.insertRow, Table.get?, Table.empty,
      Instant.parseStrict?_textWithOffset_eq_none (.inl beforeZero)]
  · simp [ops, repo, Catalog.runAll, Catalog.run, Catalog.emptyDocuments, Catalog.updateLastCheck,
      DocumentCatalog.updateLastCheck_eq, Catalog.getCheckpoint, DocumentCatalog.getCheckpoint,
      DocumentCatalog.empty, Collection.empty, Collection.findOne, Table.insert, Table.insertRow,
      Table.values, Table.empty, found, DocumentCatalog.decodeDocument,
      @Checkpoint.ofJson_document ⟨"test", "default", "z", now⟩ valid, Except.map]

end ChartCatalog
