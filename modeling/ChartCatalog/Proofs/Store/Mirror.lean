import ChartCatalog.Proofs.Store.Table
import ChartCatalog.Proofs.Catalog.RoundTrip
import ChartCatalog.Store.Catalog

/-!
# The two catalog backends side by side

The relational catalog keeps a chart as a row that names the repository it was filed
under; the document catalog keeps the chart's JSON form, which names its repository
inside. Both keep their records in tables under the same keys, and `Mirrors r d` relates
the two catalogs row by row:

* a chart row is filed under the repository its chart names, its instants are valid, and
  its document has the members of the chart's stored form (`ChartStored`);
* a checkpoint row's timestamp text is that of a valid instant, and its document is the
  stored form of the checkpoint with that instant (`CheckpointStored`);
* a chart files row's document is the stored form of its files (`FilesStored`).

Every filter the document catalog selects by then reads, on a stored document, the
column the relational catalog selects by, and every document decodes to the record of
its row. From this, each operation of the catalog contract answers alike on mirrored
catalogs and leaves them mirrored: one lemma per operation below. Reading a checkpoint is
the exception: the relational catalog reads its timestamp text back strictly, which
fails for a year without four digits, so checkpoints read alike only while every stored
text reads back (`RelationalCatalog.CheckpointsReadable`).
-/

set_option autoImplicit false

namespace ChartCatalog

open Json

/-! ## Filters on documents -/

namespace Filter

theorem textAt_repoName (name : String) :
    textAt "repo.name" name = .eq ["repo", "name"] (.str name) := rfl

theorem textAt_repoNamespace (ns : String) :
    textAt "repo.namespace" ns = .eq ["repo", "namespace"] (.str ns) := rfl

theorem textAt_checksum (checksum : String) :
    textAt "checksum" checksum = .eq ["checksum"] (.str checksum) := rfl

theorem textAt_digest (digest : String) :
    textAt "digest" digest = .eq ["digest"] (.str digest) := rfl

/-- An equality test holds of a document exactly when its path reaches an equal value. -/
theorem matches_eq_of_walk? {doc found : Json} {path : List String}
    (reached : doc.walk? path = some found) (value : Json) :
    (Filter.eq path value).matches doc = (found == value) := by
  simp [Filter.matches, reached]

/-- An exclusion test holds of a document exactly when its path reaches a value outside
the excluded ones. -/
theorem matches_notIn_of_walk? {doc found : Json} {path : List String}
    (reached : doc.walk? path = some found) (values : List Json) :
    (Filter.notIn path values).matches doc = !values.contains found := by
  simp [Filter.matches, reached]

end Filter

@[simp] theorem Json.str_beq_str (a b : String) : (Json.str a == Json.str b) = (a == b) := rfl

theorem Json.contains_map_str (texts : List String) (text : String) :
    (texts.map Json.str).contains (.str text) = texts.contains text := by
  induction texts with
  | nil => rfl
  | cons t rest ih => simp only [List.map_cons, List.contains_cons, Json.str_beq_str, ih]

theorem walk?_single {doc v : Json} {k : String} (member : doc.get? k = some v) :
    doc.walk? [k] = some v := by
  rw [walk?_cons_of_get? member]
  rfl

theorem walk?_pair {doc inner v : Json} {k k' : String} (member : doc.get? k = some inner)
    (innerMember : inner.get? k' = some v) : doc.walk? [k, k'] = some v := by
  rw [walk?_cons_of_get? member, walk?_single innerMember]

/-! ## Rows and their documents -/

/-- A chart row and its document: the row is under the chart's id and filed under the
repository the chart names, the chart's instants are valid, and the document has the
members of the chart's stored form. -/
structure ChartStored (key : String) (row : ChartRow) (doc : Json) : Prop where
  key_eq : key = row.chart.id
  repoName_eq : row.repoName = row.chart.repo.name
  repoNs_eq : row.repoNs = row.chart.repo.ns
  timesValid : row.chart.TimesValid
  members : SameMembers doc row.chart.document

/-- A checkpoint row and its document: the row's timestamp text is that of a valid instant,
and the document is the stored checkpoint of that instant. -/
def CheckpointStored (key : String) (row : CheckpointRow) (doc : Json) : Prop :=
  ∃ t : Instant, t.Valid ∧ row.lastUpdate = t.textWithOffset ∧
    doc = (⟨key, row.ns, row.checksum, t⟩ : Checkpoint).document

/-- A chart files row and its document: the row is under the files' id, and the document
is the stored form of the files with the id of their chart. -/
structure FilesStored (key : String) (row : FilesRow) (doc : Json) : Prop where
  key_eq : key = row.files.id
  doc_eq : doc = row.files.document row.chartId

namespace ChartStored

variable {key : String} {row : ChartRow} {doc : Json}

theorem get?_id (stored : ChartStored key row doc) : doc.get? "_id" = some (.str key) := by
  rw [stored.members.get?_eq, Chart.get?_document, if_pos rfl, stored.key_eq]

theorem get?_repo (stored : ChartStored key row doc) : doc.get? "repo" = some row.chart.repo.toJson := by
  rw [stored.members.get?_eq, Chart.get?_document]
  simp [Chart.toJson, get?_ofFields, List.lookup_cons]

theorem matches_onId (stored : ChartStored key row doc) (id : String) :
    (Filter.onId id).matches doc = (key == id) := by
  rw [Filter.onId, Filter.matches_eq_of_walk? (walk?_single stored.get?_id), Json.str_beq_str]

theorem matches_repoName (stored : ChartStored key row doc) (name : String) :
    (Filter.textAt "repo.name" name).matches doc = (row.repoName == name) := by
  rw [Filter.textAt_repoName, Filter.matches_eq_of_walk?
    (walk?_pair stored.get?_repo (RepoRef.get?_toJson _).1), Json.str_beq_str, stored.repoName_eq]

theorem matches_repoNamespace (stored : ChartStored key row doc) (ns : String) :
    (Filter.textAt "repo.namespace" ns).matches doc = (row.repoNs == ns) := by
  rw [Filter.textAt_repoNamespace, Filter.matches_eq_of_walk?
    (walk?_pair stored.get?_repo (RepoRef.get?_toJson _).2), Json.str_beq_str, stored.repoNs_eq]

theorem matches_notIn (stored : ChartStored key row doc) (keep : List String) :
    (Filter.notIn ["_id"] (keep.map .str)).matches doc = !keep.contains key := by
  rw [Filter.matches_notIn_of_walk? (walk?_single stored.get?_id), Json.contains_map_str]

theorem decode (stored : ChartStored key row doc) :
    DocumentCatalog.decodeDocument Chart.ofJson doc = .ok row.chart := by
  simp [DocumentCatalog.decodeDocument, Chart.ofJson_of_sameMembers stored.members stored.timesValid]

end ChartStored

namespace CheckpointStored

variable {key : String} {row : CheckpointRow} {doc : Json}

theorem matches_onId (stored : CheckpointStored key row doc) (id : String) :
    (Filter.onId id).matches doc = (key == id) := by
  obtain ⟨t, -, -, rfl⟩ := stored
  rw [Filter.onId, Filter.matches_eq_of_walk? (walk?_single (Checkpoint.get?_document _).1),
    Json.str_beq_str]

theorem matches_checksum (stored : CheckpointStored key row doc) (checksum : String) :
    (Filter.textAt "checksum" checksum).matches doc = (row.checksum == checksum) := by
  obtain ⟨t, -, -, rfl⟩ := stored
  rw [Filter.textAt_checksum, Filter.matches_eq_of_walk?
    (walk?_single (Checkpoint.get?_document _).2), Json.str_beq_str]

/-- A stored checkpoint reads back from its document as the checkpoint of its instant, and
from its timestamp text strictly exactly when the instant's year has four digits. -/
theorem decode (stored : CheckpointStored key row doc) : ∃ t,
    DocumentCatalog.decodeDocument Checkpoint.ofJson doc = .ok ⟨key, row.ns, row.checksum, t⟩ ∧
      ((Instant.parseStrict? row.lastUpdate).isSome → Instant.parseStrict? row.lastUpdate = some t) := by
  obtain ⟨t, valid, text, rfl⟩ := stored
  refine ⟨t, by simp [DocumentCatalog.decodeDocument,
    @Checkpoint.ofJson_document ⟨key, row.ns, row.checksum, t⟩ valid], fun read => ?_⟩
  rw [text] at read ⊢
  by_cases fourDigits : 0 ≤ t.date.year ∧ t.date.year ≤ 9999
  · exact Instant.parseStrict?_textWithOffset valid fourDigits.1 fourDigits.2
  · rw [Instant.parseStrict?_textWithOffset_eq_none (by omega)] at read
    cases read

end CheckpointStored

namespace FilesStored

variable {key : String} {row : FilesRow} {doc : Json}

theorem matches_onId (stored : FilesStored key row doc) (id : String) :
    (Filter.onId id).matches doc = (key == id) := by
  rw [stored.doc_eq, Filter.onId, Filter.matches_eq_of_walk?
    (walk?_single (ChartFiles.get?_document _ _).1), Json.str_beq_str, stored.key_eq]

theorem matches_repoName (stored : FilesStored key row doc) (name : String) :
    (Filter.textAt "repo.name" name).matches doc = (row.files.repo.name == name) := by
  rw [stored.doc_eq, Filter.textAt_repoName, Filter.matches_eq_of_walk?
    (walk?_pair (ChartFiles.get?_document _ _).2.1 (RepoRef.get?_toJson _).1), Json.str_beq_str]

theorem matches_repoNamespace (stored : FilesStored key row doc) (ns : String) :
    (Filter.textAt "repo.namespace" ns).matches doc = (row.files.repo.ns == ns) := by
  rw [stored.doc_eq, Filter.textAt_repoNamespace, Filter.matches_eq_of_walk?
    (walk?_pair (ChartFiles.get?_document _ _).2.1 (RepoRef.get?_toJson _).2), Json.str_beq_str]

theorem matches_digest (stored : FilesStored key row doc) (digest : String) :
    (Filter.textAt "digest" digest).matches doc = (row.files.digest == digest) := by
  rw [stored.doc_eq, Filter.textAt_digest, Filter.matches_eq_of_walk?
    (walk?_single (ChartFiles.get?_document _ _).2.2), Json.str_beq_str]

theorem decode (stored : FilesStored key row doc) :
    DocumentCatalog.decodeDocument ChartFiles.ofJson doc = .ok row.files := by
  simp [DocumentCatalog.decodeDocument, stored.doc_eq, ChartFiles.ofJson_document]

end FilesStored

/-! ## Writes and reads of the document catalog -/

namespace Collection

/-- A write whose selector names a key and whose document is an object stores the object
with the key as `_id`. -/
theorem checkWrite_obj (c : Collection) (id : String) (fields : List (String × Json)) :
    c.checkWrite (.obj [("_id", .str id)]) (.obj fields) =
      .ok (id, (Json.obj fields).set "_id" (.str id)) := by
  simp [checkWrite, Json.get?, Json.set]

/-- A batch of objects written under keys is stored object by object, in order, each
with its key as `_id`. -/
theorem bulkUpsert_objects (c : Collection) (writes : List (String × Json))
    (objects : ∀ w ∈ writes, ∃ fields, w.2 = .obj fields) :
    c.bulkUpsert (writes.map fun w => (.obj [("_id", .str w.1)], w.2)) =
      .ok (writes.length, { c with
        docs := writes.foldl (fun docs w => docs.insert w.1 (w.2.set "_id" (.str w.1))) c.docs }) := by
  -- stated for any check that accepts each write, so that it applies to the one in
  -- `bulkUpsert` as written there
  have checked : ∀ check : Json × Json → Outcome (String × Json),
      (∀ w ∈ writes, check (.obj [("_id", .str w.1)], w.2) = .ok (w.1, w.2.set "_id" (.str w.1))) →
      (writes.map fun w => ((Json.obj [("_id", .str w.1)]), w.2)).mapM check =
        .ok (writes.map fun w => (w.1, w.2.set "_id" (.str w.1))) := by
    intro check each
    clear objects
    induction writes with
    | nil => rfl
    | cons w rest ih =>
      have others := ih fun w' member => each w' (List.mem_cons_of_mem _ member)
      simp only [List.map_cons, List.mapM_cons, each w List.mem_cons_self, ok_bind, others,
        pure_eq_ok]
  simp only [bulkUpsert]
  rw [checked _ fun w member => ?_]
  · simp only [ok_bind, List.length_map, List.foldl_map, pure_eq_ok]
  · obtain ⟨fields, isObj⟩ := objects w member
    obtain ⟨id, doc⟩ := w
    simp only at isObj
    subst isObj
    exact c.checkWrite_obj id fields

theorem upsert_obj (c : Collection) (id : String) (fields : List (String × Json)) :
    c.upsert id (.obj fields) =
      .ok { c with docs := c.docs.insert id ((Json.obj fields).set "_id" (.str id)) } := by
  have written := c.bulkUpsert_objects [(id, .obj fields)] (by simp)
  simp only [List.map_cons, List.map_nil, List.foldl_cons, List.foldl_nil] at written
  simp [upsert, written, Except.map]

/-- In a table related to documents, a filter that can hold only of the document under one
key finds that document, when it passes the rest of the filter. -/
theorem findOne_of_key {α : Type} {R : String → α → Json → Prop} {t : Table α} {c : Collection}
    (rel : Table.Rel R t c.docs) (sorted : t.Sorted) (f : Filter) (key : String)
    (extra : Json → Bool) (onKey : ∀ k a doc, R k a doc → f.matches doc = (k == key && extra doc)) :
    c.findOne f = (c.docs.get? key).filter extra := by
  unfold findOne
  apply Table.find?_values_of_key (rel.sorted sorted)
  intro k doc member
  obtain ⟨a, -, related⟩ := rel.exists_of_mem_right member
  exact onKey k a doc related

theorem removeAll_eq (c : Collection) (f : Filter) :
    c.removeAll f =
      let removed := c.docs.removeWhere fun _ doc => f.matches doc
      (removed.1, { c with docs := removed.2 }) := rfl

theorem updateFields_eq (c : Collection) (f : Filter) (fields : List (String × Json)) :
    c.updateFields f fields =
      let updated := c.docs.update fun _ doc =>
        if f.matches doc then
          match doc with
          | .obj members =>
            some (.obj (fields.foldl (fun acc (k, v) => Json.insertField k v acc) members))
          | _ => none
        else none
      (updated.1, { c with docs := updated.2 }) := rfl

/-- A table related to the documents of a collection stays related when it changes each
row whose document the filter selects, as the documents change by the members set, and
changes as many rows. -/
theorem updateFields_rel {α : Type} {R : String → α → Json → Prop} {t : Table α} {c : Collection}
    (rel : Table.Rel R t c.docs) (f : Filter) (fields : List (String × Json))
    (change : String → α → Option α)
    (untouched : ∀ k a doc, R k a doc → f.matches doc = false → change k a = none)
    (touched : ∀ k a doc, R k a doc → f.matches doc = true → ∃ members a', doc = .obj members ∧
      change k a = some a' ∧
        R k a' (.obj (fields.foldl (fun acc (key, value) => insertField key value acc) members))) :
    (t.update change).1 = (c.updateFields f fields).1 ∧
      Table.Rel R (t.update change).2 (c.updateFields f fields).2.docs := by
  rw [updateFields_eq]
  refine Table.Rel.update rel fun k a doc related => ?_
  cases selected : f.matches doc
  · simp [untouched k a doc related selected]
  · obtain ⟨members, a', rfl, changed, related'⟩ := touched k a doc related selected
    simp only [if_true, changed]
    exact .some related'

end Collection

/-- Documents decode one by one into the records of related rows. -/
theorem mapM_of_forall₂ {α β : Type} {read : Json → Outcome β} {f : α → β} :
    ∀ {rows : List α} {docs : List Json}, List.Forall₂ (fun a doc => read doc = .ok (f a)) rows docs →
      docs.mapM read = .ok (rows.map f)
  | [], [], .nil => rfl
  | _ :: _, _ :: _, .cons first rest => by
    simp only [List.mapM_cons, first, ok_bind, mapM_of_forall₂ rest, List.map_cons, pure_eq_ok]

theorem RelationalCatalog.removeMissing_eq (r : RelationalCatalog) (repoName : String)
    (keep : List String) :
    r.removeMissing repoName keep =
      let removed := r.charts.removeWhere fun id row => row.repoName == repoName && !keep.contains id
      (removed.1, { r with charts := removed.2 }) := rfl

namespace DocumentCatalog

variable (d : DocumentCatalog)

theorem removeMissing_eq (repoName : String) (keep : List String) :
    d.removeMissing repoName keep =
      let removed := d.charts.docs.removeWhere fun _ doc =>
        (Filter.all [Filter.textAt "repo.name" repoName, .notIn ["_id"] (keep.map .str)]).matches doc
      (removed.1, { d with charts := { d.charts with docs := removed.2 } }) := rfl

theorem importCharts_eq (charts : List Chart) :
    d.importCharts charts = .ok { d with charts := { d.charts with
      docs := charts.foldl (fun docs chart => docs.insert chart.id chart.document) d.charts.docs } } := by
  have written := d.charts.bulkUpsert_objects (charts.map fun chart => (chart.id, chart.toJson))
    (by simp only [List.mem_map]; rintro _ ⟨chart, -, rfl⟩; exact ⟨_, rfl⟩)
  simp only [List.map_map, List.foldl_map] at written
  simp only [importCharts, Function.comp_def] at written ⊢
  rw [written]
  rfl

theorem updateLastCheck_eq (repo : Repo) (checksum : String) (now : Instant) :
    d.updateLastCheck repo checksum now = .ok { d with repos := { d.repos with
      docs := d.repos.docs.insert repo.name (⟨repo.name, repo.ns, checksum, now⟩ : Checkpoint).document } } := by
  simp only [updateLastCheck, Checkpoint.toJson, Collection.upsert_obj, ok_bind, pure_eq_ok]
  rfl

theorem insertFiles_eq (chartId : String) (files : ChartFiles) :
    d.insertFiles chartId files = .ok { d with files := { d.files with
      docs := d.files.docs.insert files.id (files.document chartId) } } := by
  simp only [insertFiles, ChartFiles.toJson, Json.set, Collection.upsert_obj, ok_bind, pure_eq_ok]
  rfl

theorem updateIcon_eq (repo : Repo) (chartId : String) (icon : ByteArray) (contentType : String) :
    d.updateIcon repo chartId icon contentType =
      let updated := d.charts.updateFields
        (.all [Filter.onId chartId, Filter.textAt "repo.name" repo.name,
          Filter.textAt "repo.namespace" repo.ns])
        [("raw_icon", .str (Base64.encode icon)), ("icon_content_type", .str contentType)]
      if updated.1 == 0 then
        .error (.store ("Chart " ++ chartId ++ " not found in repository " ++ repo.name))
      else .ok { d with charts := updated.2 } := rfl

end DocumentCatalog

/-! ## Mirrored catalogs -/

/-- Every stored checkpoint's timestamp text reads back strictly. -/
def RelationalCatalog.CheckpointsReadable (r : RelationalCatalog) : Prop :=
  ∀ k row, (k, row) ∈ r.repos.rows → (Instant.parseStrict? row.lastUpdate).isSome

/-- The relational and the document catalog hold the same records: their tables have the
same keys in the same order, each row related to its document, and the relational tables
are in key order. -/
structure Mirrors (r : RelationalCatalog) (d : DocumentCatalog) : Prop where
  charts : Table.Rel ChartStored r.charts d.charts.docs
  repos : Table.Rel CheckpointStored r.repos d.repos.docs
  files : Table.Rel FilesStored r.files d.files.docs
  chartsSorted : r.charts.Sorted
  reposSorted : r.repos.Sorted
  filesSorted : r.files.Sorted

namespace Mirrors

theorem empty : Mirrors .empty .empty :=
  ⟨.empty, .empty, .empty, .empty, .empty, .empty⟩

variable {r : RelationalCatalog} {d : DocumentCatalog}

/-- A chart imported with the repository it names is stored alike by both catalogs. -/
theorem chartStored_import {repo : Repo} {chart : Chart}
    (owned : chart.repo = repo.reference ∧ chart.TimesValid) :
    ChartStored chart.id ⟨repo.name, repo.ns, chart⟩ chart.document := by
  obtain ⟨named, valid⟩ := owned
  exact ⟨rfl, by rw [named]; rfl, by rw [named]; rfl, valid, SameMembers.refl _⟩

theorem rel_importCharts {repo : Repo} :
    ∀ {charts : List Chart} {t : Table ChartRow} {u : Table Json},
      (∀ chart ∈ charts, chart.repo = repo.reference ∧ chart.TimesValid) →
      Table.Rel ChartStored t u → t.Sorted →
      Table.Rel ChartStored (charts.foldl (fun t chart => t.insert chart.id ⟨repo.name, repo.ns, chart⟩) t)
          (charts.foldl (fun docs chart => docs.insert chart.id chart.document) u) ∧
        (charts.foldl (fun t chart => t.insert chart.id ⟨repo.name, repo.ns, chart⟩) t).Sorted
  | [], _, _, _, rel, sorted => ⟨rel, sorted⟩
  | chart :: rest, _, _, owned, rel, sorted =>
    @rel_importCharts repo rest _ _ (fun c member => owned c (List.mem_cons_of_mem _ member))
      (rel.insert (chartStored_import (owned chart List.mem_cons_self))) (sorted.insert _ _)

theorem importCharts (mirror : Mirrors r d) {repo : Repo} {charts : List Chart}
    (owned : ∀ chart ∈ charts, chart.repo = repo.reference ∧ chart.TimesValid) :
    ∃ d', d.importCharts charts = .ok d' ∧ Mirrors (r.importCharts repo charts) d' := by
  obtain ⟨rel, sorted⟩ := rel_importCharts owned mirror.charts mirror.chartsSorted
  exact ⟨_, d.importCharts_eq charts, { mirror with charts := rel, chartsSorted := sorted }⟩

theorem removeMissing (mirror : Mirrors r d) (repoName : String) (keep : List String) :
    (r.removeMissing repoName keep).1 = (d.removeMissing repoName keep).1 ∧
      Mirrors (r.removeMissing repoName keep).2 (d.removeMissing repoName keep).2 := by
  have agree : ∀ k row doc, ChartStored k row doc →
      (row.repoName == repoName && !keep.contains k) =
        (Filter.all [Filter.textAt "repo.name" repoName, .notIn ["_id"] (keep.map .str)]).matches doc := by
    intro k row doc stored
    simp [Filter.matches_all, stored.matches_repoName, stored.matches_notIn]
  obtain ⟨count, rel⟩ := mirror.charts.removeWhere agree
  have sorted := mirror.chartsSorted.removeWhere
    fun id row => row.repoName == repoName && !keep.contains id
  rw [RelationalCatalog.removeMissing_eq, DocumentCatalog.removeMissing_eq]
  exact ⟨count, { mirror with charts := rel, chartsSorted := sorted }⟩

theorem alreadyProcessed (mirror : Mirrors r d) (repoName checksum : String) :
    d.alreadyProcessed repoName checksum = r.alreadyProcessed repoName checksum := by
  have found := Collection.findOne_of_key mirror.repos mirror.reposSorted
    (.all [Filter.onId repoName, Filter.textAt "checksum" checksum]) repoName
    (fun doc => (Filter.textAt "checksum" checksum).matches doc) fun k row doc stored => by
      simp [Filter.matches_all, stored.matches_onId]
  simp only [DocumentCatalog.alreadyProcessed, RelationalCatalog.alreadyProcessed, found]
  rcases Table.rel_cases (mirror.repos.get? repoName) with ⟨none, none'⟩ | ⟨row, doc, some, some', stored⟩
  · simp [none, none']
  · simp only [some, some', Option.filter, stored.matches_checksum]
    cases row.checksum == checksum <;> rfl

theorem updateLastCheck (mirror : Mirrors r d) (repo : Repo) (checksum : String) {now : Instant}
    (valid : now.Valid) :
    ∃ d', d.updateLastCheck repo checksum now = .ok d' ∧
      Mirrors (r.updateLastCheck repo checksum now) d' := by
  have stored : CheckpointStored repo.name ⟨repo.ns, checksum, now.textWithOffset⟩
      (⟨repo.name, repo.ns, checksum, now⟩ : Checkpoint).document :=
    ⟨now, valid, rfl, rfl⟩
  have related := mirror.repos.insert stored
  have sorted := mirror.reposSorted.insert repo.name ⟨repo.ns, checksum, now.textWithOffset⟩
  exact ⟨_, d.updateLastCheck_eq repo checksum now,
    { mirror with repos := related, reposSorted := sorted }⟩

theorem deleteRepo (mirror : Mirrors r d) (repoName : String) :
    Mirrors (r.deleteRepo repoName) (d.deleteRepo repoName) := by
  have charts := mirror.charts.removeWhere fun k row doc (stored : ChartStored k row doc) =>
    (stored.matches_repoName repoName).symm
  have files := mirror.files.removeWhere fun k row doc (stored : FilesStored k row doc) =>
    (stored.matches_repoName repoName).symm
  have repos := mirror.repos.removeWhere fun k row doc (stored : CheckpointStored k row doc) =>
    (stored.matches_onId repoName).symm
  simp only [RelationalCatalog.deleteRepo, DocumentCatalog.deleteRepo, Collection.removeAll_eq]
  exact ⟨charts.2, repos.2, files.2,
    mirror.chartsSorted.removeWhere fun _ row => row.repoName == repoName,
    mirror.reposSorted.removeWhere fun name _ => name == repoName,
    mirror.filesSorted.removeWhere fun _ row => row.files.repo.name == repoName⟩

theorem filesExist (mirror : Mirrors r d) (filesId repoName ns digest : String) :
    d.filesExist filesId repoName ns digest = r.filesExist filesId repoName ns digest := by
  have found := Collection.findOne_of_key mirror.files mirror.filesSorted
    (.all [Filter.onId filesId, Filter.textAt "repo.name" repoName,
      Filter.textAt "repo.namespace" ns, Filter.textAt "digest" digest]) filesId
    (fun doc => (Filter.textAt "repo.name" repoName).matches doc &&
      (Filter.textAt "repo.namespace" ns).matches doc && (Filter.textAt "digest" digest).matches doc)
    fun k row doc stored => by
      simp [Filter.matches_all, stored.matches_onId, Bool.and_assoc]
  simp only [DocumentCatalog.filesExist, RelationalCatalog.filesExist, found]
  rcases Table.rel_cases (mirror.files.get? filesId) with ⟨none, none'⟩ | ⟨row, doc, some, some', stored⟩
  · simp [none, none']
  · simp only [some, some', Option.filter, stored.matches_repoName, stored.matches_repoNamespace,
      stored.matches_digest]
    cases row.files.repo.name == repoName && row.files.repo.ns == ns && row.files.digest == digest <;> rfl

theorem insertFiles (mirror : Mirrors r d) (chartId : String) (files : ChartFiles) :
    ∃ d', d.insertFiles chartId files = .ok d' ∧ Mirrors (r.insertFiles chartId files) d' := by
  have stored : FilesStored files.id ⟨chartId, files⟩ (files.document chartId) := ⟨rfl, rfl⟩
  have related := mirror.files.insert stored
  have sorted := mirror.filesSorted.insert files.id ⟨chartId, files⟩
  exact ⟨_, d.insertFiles_eq chartId files, { mirror with files := related, filesSorted := sorted }⟩

theorem getChart (mirror : Mirrors r d) (chartId : String) :
    d.getChart chartId = .ok (r.getChart chartId) := by
  have found := Collection.findOne_of_key mirror.charts mirror.chartsSorted (Filter.onId chartId)
    chartId (fun _ => true) fun k row doc stored => by simp [stored.matches_onId]
  simp only [DocumentCatalog.getChart, RelationalCatalog.getChart, found]
  rcases Table.rel_cases (mirror.charts.get? chartId) with ⟨none, none'⟩ | ⟨row, doc, some, some', stored⟩
  · simp [none, none']
  · simp [some, some', Option.filter, stored.decode]

theorem listCharts (mirror : Mirrors r d) (repoName : String) :
    d.listCharts repoName = .ok (r.listCharts repoName) := by
  have related := mirror.charts.select fun k row doc (stored : ChartStored k row doc) =>
    (stored.matches_repoName repoName).symm
  simp only [DocumentCatalog.listCharts, Collection.find, RelationalCatalog.listCharts]
  refine mapM_of_forall₂ (List.Forall₂.imp ?_ related)
  rintro row doc ⟨k, stored⟩
  exact stored.decode

theorem getFiles (mirror : Mirrors r d) (filesId : String) :
    d.getFiles filesId = .ok (r.getFiles filesId) := by
  have found := Collection.findOne_of_key mirror.files mirror.filesSorted (Filter.onId filesId)
    filesId (fun _ => true) fun k row doc stored => by simp [stored.matches_onId]
  simp only [DocumentCatalog.getFiles, RelationalCatalog.getFiles, found]
  rcases Table.rel_cases (mirror.files.get? filesId) with ⟨none, none'⟩ | ⟨row, doc, some, some', stored⟩
  · simp [none, none']
  · simp [some, some', Option.filter, stored.decode]

/-- Checkpoints read alike when the relational catalog reads back every stored timestamp
text. -/
theorem getCheckpoint (mirror : Mirrors r d) (readable : r.CheckpointsReadable) (repoName : String) :
    d.getCheckpoint repoName = r.getCheckpoint repoName := by
  have found := Collection.findOne_of_key mirror.repos mirror.reposSorted (Filter.onId repoName)
    repoName (fun _ => true) fun k row doc stored => by simp [stored.matches_onId]
  simp only [DocumentCatalog.getCheckpoint, RelationalCatalog.getCheckpoint, found]
  rcases Table.rel_cases (mirror.repos.get? repoName) with ⟨none, none'⟩ | ⟨row, doc, some, some', stored⟩
  · simp [none, none']
  · obtain ⟨t, decoded, strict⟩ := stored.decode
    have read := strict (readable repoName row ((Table.get?_eq_some_iff mirror.reposSorted).1 some))
    simp [some, some', Option.filter, read, decoded]

/-- Each relational table has as many rows as its collection has documents. -/
theorem countRows (mirror : Mirrors r d) {table : String} {c : Collection}
    (named : d.collection? table = some c) : r.countRows table = .ok c.size := by
  simp only [DocumentCatalog.collection?, RelationalCatalog.countRows] at named ⊢
  split at named
  · rename_i charts
    cases named
    rw [if_pos charts]
    exact congrArg _ mirror.charts.size_eq
  split at named
  · rename_i notCharts repos
    cases named
    rw [if_neg notCharts, if_pos repos]
    exact congrArg _ mirror.repos.size_eq
  split at named
  · rename_i notCharts notRepos files
    cases named
    rw [if_neg notCharts, if_neg notRepos, if_pos files]
    exact congrArg _ mirror.files.size_eq
  · cases named

/-- The row an icon update gives in place of a row: under the chart id, a row filed under
the repository gets the icon; every other row stays. -/
def iconRow? (repo : Repo) (chartId : String) (icon : ByteArray) (contentType : String) (k : String)
    (row : ChartRow) : Option ChartRow :=
  if k = chartId ∧ row.repoName = repo.name ∧ row.repoNs = repo.ns then
    some { row with chart := { row.chart with rawIcon := some icon, iconContentType := some contentType } }
  else none

/-- The icon update of the document catalog changes the documents of the rows that
`iconRow?` changes, to documents of the changed rows. -/
theorem updateIcon_rel (mirror : Mirrors r d) (repo : Repo) (chartId : String) (icon : ByteArray)
    (contentType : String) :
    (r.charts.update (iconRow? repo chartId icon contentType)).1 =
        (d.charts.updateFields (.all [Filter.onId chartId, Filter.textAt "repo.name" repo.name,
          Filter.textAt "repo.namespace" repo.ns])
          [("raw_icon", .str (Base64.encode icon)), ("icon_content_type", .str contentType)]).1 ∧
      Table.Rel ChartStored (r.charts.update (iconRow? repo chartId icon contentType)).2
        (d.charts.updateFields (.all [Filter.onId chartId, Filter.textAt "repo.name" repo.name,
          Filter.textAt "repo.namespace" repo.ns])
          [("raw_icon", .str (Base64.encode icon)), ("icon_content_type", .str contentType)]).2.docs := by
  have selects : ∀ k row doc, ChartStored k row doc →
      ((Filter.all [Filter.onId chartId, Filter.textAt "repo.name" repo.name,
        Filter.textAt "repo.namespace" repo.ns]).matches doc = true ↔
          k = chartId ∧ row.repoName = repo.name ∧ row.repoNs = repo.ns) := by
    intro k row doc stored
    simp [Filter.matches_all, stored.matches_onId, stored.matches_repoName,
      stored.matches_repoNamespace]
  refine Collection.updateFields_rel mirror.charts _ _ _ ?_ ?_
  · intro k row doc stored unselected
    rw [iconRow?, if_neg]
    intro chosen
    rw [(selects k row doc stored).2 chosen] at unselected
    cases unselected
  · intro k row doc stored selected
    obtain ⟨members, fields, isObj, -, -⟩ := stored.members
    have same := stored.members
    rw [isObj] at same
    refine ⟨members, _, isObj, if_pos ((selects k row doc stored).1 selected), ?_⟩
    exact ⟨stored.key_eq, stored.repoName_eq, stored.repoNs_eq, stored.timesValid,
      Chart.sameMembers_withIcon same icon contentType⟩

/-- An icon update succeeds on both catalogs, leaving them mirrored, or fails on both with
the same error. -/
theorem updateIcon (mirror : Mirrors r d) (repo : Repo) (chartId : String) (icon : ByteArray)
    (contentType : String) :
    (∃ r' d', r.updateIcon repo chartId icon contentType = .ok r' ∧
        d.updateIcon repo chartId icon contentType = .ok d' ∧ Mirrors r' d') ∨
      ∃ e, r.updateIcon repo chartId icon contentType = .error e ∧
        d.updateIcon repo chartId icon contentType = .error e := by
  obtain ⟨count, rel⟩ := mirror.updateIcon_rel repo chartId icon contentType
  rw [DocumentCatalog.updateIcon_eq]
  dsimp only
  rw [← count]
  -- the relational catalog looks the id up; the document catalog counts the changed rows
  by_cases owned : ∃ row, r.charts.get? chartId = some row ∧ row.repoName = repo.name ∧
      row.repoNs = repo.ns
  · obtain ⟨row, found, named, inNs⟩ := owned
    have changed : iconRow? repo chartId icon contentType chartId row = some
        { row with chart := { row.chart with rawIcon := some icon, iconContentType := some contentType } } :=
      if_pos ⟨rfl, named, inNs⟩
    have inPlace := Table.insert_eq_update mirror.chartsSorted found changed
      fun k v other => if_neg fun chosen => other chosen.1
    have present := (Table.get?_eq_some_iff mirror.chartsSorted).1 found
    have nonzero : (r.charts.update (iconRow? repo chartId icon contentType)).1 ≠ 0 := fun zero =>
      absurd ((Table.update_count_eq_zero_iff _).1 zero chartId row present) (by simp [changed])
    have relational : r.updateIcon repo chartId icon contentType =
        .ok { r with charts := (r.charts.update (iconRow? repo chartId icon contentType)).2 } := by
      rw [← inPlace]
      simp [RelationalCatalog.updateIcon, found, named, inNs]
    have sorted := mirror.chartsSorted.update (iconRow? repo chartId icon contentType)
    left
    refine ⟨_, _, relational, by rw [if_neg (by simpa using nonzero)], ?_⟩
    exact { mirror with charts := rel, chartsSorted := sorted }
  · have zero : (r.charts.update (iconRow? repo chartId icon contentType)).1 = 0 := by
      refine (Table.update_count_eq_zero_iff _).2 fun k row member => if_neg ?_
      rintro ⟨rfl, named, inNs⟩
      exact owned ⟨row, (Table.get?_eq_some_iff mirror.chartsSorted).2 member, named, inNs⟩
    right
    refine ⟨_, ?_, by rw [if_pos (by simp [zero])]⟩
    simp only [RelationalCatalog.updateIcon]
    split
    · rename_i row found
      have notOwned : ¬ (row.repoName = repo.name ∧ row.repoNs = repo.ns) :=
        fun both => owned ⟨row, found, both⟩
      simp only [Bool.and_eq_true, beq_iff_eq]
      rw [if_neg notOwned]
    · rfl

end Mirrors

end ChartCatalog
