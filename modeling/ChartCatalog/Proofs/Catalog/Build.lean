import ChartCatalog.Proofs.Yaml.Maps
import ChartCatalog.Catalog.Build
import Mathlib.Data.List.Forall2

/-!
# The charts an index makes

A repository's index lists, under each chart name, the entries of that chart's versions,
newest first. The catalog makes one chart of each name that has an entry which is not
deprecated, and none of a name whose every entry is (`newChart_eq_none_iff`). The chart is
made from the live entries of its name (`Chart.MadeFrom`): its id joins the repository's
name and the chart's, each version copies one live entry in the index's order
(`ChartVersion.Describes`), and the chart's own fields and its summary's latest version
come from the newest live entry.

A parsed index lists each chart name once, in increasing order (`parseIndex_keysIncrease`),
since its entries are read as a YAML map. So the charts of a parsed index come in strictly
increasing order of their names and no two share an id
(`charts_from_index_are_its_live_names`).
-/

set_option autoImplicit false

namespace ChartCatalog

open Yaml

/-! ## Parsed indexes -/

/-- A parsed index lists each chart name once, in increasing order. -/
theorem parseIndex_keysIncrease {data : ByteArray} {index : IndexFile}
    (parsed : parseIndex data = .ok index) : KeysIncrease index.entries := by
  -- the index record keeps its entries sorted through every field it reads
  have record : Decoder.Yields (Decoder.resolve IndexDecoding.indexFile)
      fun (f : IndexFile) => KeysIncrease f.entries := by
    refine Decoder.yields_resolve fun e => ?_
    unfold IndexDecoding.indexFile
    refine Decoder.yields_recordFrom (P := fun f : IndexFile => KeysIncrease f.entries)
      (by exact List.Pairwise.nil) (fun key update known acc sorted => ?_) e
    split at known
    · cases known
      exact Decoder.yields_bind_of fun _ => Decoder.yields_pure sorted
    · cases known
      exact (Decoder.yields_orDefault (fun e => Decoder.yields_mapFrom _ e) List.Pairwise.nil).bind
        fun _ decoded => Decoder.yields_pure decoded
    · cases known
  unfold parseIndex at parsed
  split at parsed
  · cases parsed
  · split at parsed
    · rename_i decoded
      cases parsed
      cases loaded : Document.ofBytes data with
      | error e => rw [loaded] at decoded; cases decoded
      | ok doc =>
        rw [loaded] at decoded
        exact record.run decoded
    · cases parsed

/-! ## One chart -/

/-- A chart version describes an index entry: it copies the version, the app version, the
digest and the URLs, and holds the creation time read as RFC 3339 from the trimmed text,
none when the entry has none or it does not read. -/
def ChartVersion.Describes (v : ChartVersion) (e : IndexEntry) : Prop :=
  v.version = e.version ∧ v.appVersion = e.appVersion ∧ v.digest = e.digest ∧ v.urls = e.urls ∧
    v.created = e.created.bind fun text => Instant.parseStrict? (Text.trim text)

/-- The chart a repository makes of a chart name from the live entries listed under it,
newest first. -/
structure Chart.MadeFrom (repo : Repo) (name : String) (live : List IndexEntry) (chart : Chart) :
    Prop where
  id : chart.id = chartId repo.name name
  name : chart.name = name
  repo : chart.repo = repo.reference
  /-- One version per live entry, in the index's order. -/
  versions : List.Forall₂ ChartVersion.Describes chart.versions live
  /-- The chart's own fields and the summary's latest version come from the newest entry. -/
  newest : ∃ newest ∈ live.head?, chart.description = newest.description ∧
    chart.home = newest.home ∧ chart.keywords = newest.keywords ∧
    chart.maintainers = newest.maintainers ∧ chart.sources = newest.sources ∧
    chart.icon = newest.icon ∧
    (PackageSummary.ofChart chart).map (·.latestVersion) = some newest.version
  /-- No icon is stored yet. -/
  noIcon : chart.rawIcon = none ∧ chart.iconContentType = none

theorem IndexEntry.toVersion_describes (e : IndexEntry) : e.toVersion.Describes e :=
  ⟨rfl, rfl, rfl, rfl, rfl⟩

/-- The chart made of a name is made from its live entries. -/
theorem newChart_madeFrom {name : String} {entries : List IndexEntry} {repo : Repo} {chart : Chart}
    (made : newChart name entries repo = some chart) :
    chart.MadeFrom repo name (entries.filter (!·.deprecated)) := by
  unfold newChart at made
  split at made
  · cases made
  · rename_i live newest rest split
    cases made
    refine ⟨rfl, rfl, rfl, ?_, ⟨newest, by rw [split]; rfl, rfl, rfl, rfl, rfl, rfl, rfl, rfl⟩,
      rfl, rfl⟩
    rw [split, List.forall₂_map_left_iff]
    exact List.forall₂_same.2 fun e _ => e.toVersion_describes

/-- A name makes no chart exactly when every entry listed under it is deprecated. -/
theorem newChart_eq_none_iff (name : String) (entries : List IndexEntry) (repo : Repo) :
    newChart name entries repo = none ↔ ∀ e ∈ entries, e.deprecated = true := by
  have dead : entries.filter (!·.deprecated) = [] ↔ ∀ e ∈ entries, e.deprecated = true := by
    simp [List.filter_eq_nil_iff]
  rw [← dead]
  unfold newChart
  split <;> simp_all

/-- A name makes a chart exactly when an entry listed under it is not deprecated. -/
theorem newChart_isSome_iff (name : String) (entries : List IndexEntry) (repo : Repo) :
    (newChart name entries repo).isSome = entries.any (!·.deprecated) := by
  rw [Bool.eq_iff_iff, Option.isSome_iff_ne_none, ne_eq, newChart_eq_none_iff, List.any_eq_true]
  simp

/-! ## The charts of an index -/

/-- An index yields no charts exactly when every version it lists is deprecated, as in an
index without entries. -/
theorem chartsFromIndex_eq_nil_iff (index : IndexFile) (repo : Repo) :
    chartsFromIndex index repo = [] ↔ ∀ entry ∈ index.entries, ∀ e ∈ entry.2, e.deprecated = true := by
  unfold chartsFromIndex
  rw [List.filterMap_eq_nil_iff]
  apply forall_congr'
  rintro ⟨name, entries⟩
  exact imp_congr_right fun _ => newChart_eq_none_iff name entries repo

/-- The names of an index that have a live entry. -/
def IndexFile.liveEntries (index : IndexFile) : List (String × List IndexEntry) :=
  index.entries.filter fun entry => entry.2.any (!·.deprecated)

/-- The charts of an index are made, one each and in the index's order, from the names
that have a live entry. -/
theorem chartsFromIndex_madeFrom (index : IndexFile) (repo : Repo) :
    List.Forall₂ (fun entry chart => chart.MadeFrom repo entry.1 (entry.2.filter (!·.deprecated)))
      index.liveEntries (chartsFromIndex index repo) := by
  unfold chartsFromIndex IndexFile.liveEntries
  induction index.entries with
  | nil => exact .nil
  | cons entry rest ih =>
    obtain ⟨name, entries⟩ := entry
    have isSome := newChart_isSome_iff name entries repo
    rw [List.filterMap_cons, List.filter_cons]
    dsimp only
    cases made : newChart name entries repo with
    | none =>
      rw [made, Option.isSome_none] at isSome
      simpa only [← isSome, Bool.false_eq_true, if_false] using ih
    | some chart =>
      rw [made, Option.isSome_some] at isSome
      simp only [← isSome, if_true]
      exact List.Forall₂.cons (newChart_madeFrom made) ih

/-- The charts of an index carry the names that have a live entry, in the index's order. -/
theorem names_chartsFromIndex (index : IndexFile) (repo : Repo) :
    (chartsFromIndex index repo).map (·.name) = index.liveEntries.map (·.1) := by
  have made := chartsFromIndex_madeFrom index repo
  generalize index.liveEntries = live at made ⊢
  generalize chartsFromIndex index repo = charts at made ⊢
  induction made with
  | nil => rfl
  | cons madeHead _ ih => rw [List.map_cons, List.map_cons, madeHead.name, ih]

/-- Every chart of an index has the id of its name in the repository. -/
theorem id_of_mem_chartsFromIndex {index : IndexFile} {repo : Repo} {chart : Chart}
    (member : chart ∈ chartsFromIndex index repo) : chart.id = chartId repo.name chart.name := by
  have made := chartsFromIndex_madeFrom index repo
  generalize index.liveEntries = live at made
  generalize chartsFromIndex index repo = charts at made member
  induction made with
  | nil => cases member
  | cons madeHead _ ih =>
    rcases List.mem_cons.1 member with rfl | inRest
    · rw [madeHead.id, madeHead.name]
    · exact ih inRest

/-- Charts of one repository with different names have different ids. -/
theorem chartId_injective (repoName : String) {a b : String}
    (same : chartId repoName a = chartId repoName b) : a = b :=
  (String.append_right_inj (repoName ++ "/")).1 same

/-- The charts of a parsed index come once per name that has a live entry, each made from
those entries, in strictly increasing order of their names, and no two share an id. -/
theorem charts_from_index_are_its_live_names {data : ByteArray} {index : IndexFile}
    (parsed : parseIndex data = .ok index) (repo : Repo) :
    List.Forall₂ (fun entry chart => chart.MadeFrom repo entry.1 (entry.2.filter (!·.deprecated)))
      index.liveEntries (chartsFromIndex index repo) ∧
    (chartsFromIndex index repo).Pairwise (fun a b => a.name < b.name) ∧
    ((chartsFromIndex index repo).map (·.id)).Nodup := by
  have made := chartsFromIndex_madeFrom index repo
  -- the live names keep the parsed order, which is strict
  have increasing : (chartsFromIndex index repo).Pairwise (fun a b => a.name < b.name) := by
    rw [← List.pairwise_map, names_chartsFromIndex, List.pairwise_map]
    exact (parseIndex_keysIncrease parsed).sublist List.filter_sublist
  refine ⟨made, increasing, ?_⟩
  have ids : (chartsFromIndex index repo).map (·.id) =
      (chartsFromIndex index repo).map fun chart => chartId repo.name chart.name :=
    List.map_congr_left fun _ member => id_of_mem_chartsFromIndex member
  rw [ids, List.Nodup, List.pairwise_map]
  exact increasing.imp fun less same => ne_of_lt less (chartId_injective repo.name same)

/-- An index whose newest version of `redis` is deprecated and whose chart `old` has only a
deprecated version: `redis` is made from its older version alone, and `old` from nothing. -/
theorem charts_from_index_are_its_live_names_past_deprecated :
    let data := ("entries:\n  redis:\n  - version: 2.0.0\n    deprecated: true\n" ++
      "  - version: 1.9.0\n  old:\n  - version: 0.1.0\n    deprecated: true\n").toUTF8
    let index : IndexFile := ⟨"", [
      ("old", [{ (default : IndexEntry) with version := "0.1.0", deprecated := true }]),
      ("redis", [{ (default : IndexEntry) with version := "2.0.0", deprecated := true },
        { (default : IndexEntry) with version := "1.9.0" }])]⟩
    let repo : Repo := ⟨"test", "default", "http://testrepo.com", none⟩
    parseIndex data = .ok index ∧
      List.Forall₂ (fun entry chart => chart.MadeFrom repo entry.1 (entry.2.filter (!·.deprecated)))
        index.liveEntries (chartsFromIndex index repo) ∧
      (chartsFromIndex index repo).Pairwise (fun a b => a.name < b.name) ∧
      ((chartsFromIndex index repo).map (·.id)).Nodup := by
  intro data index repo
  have parsed : parseIndex data = .ok index := by decide +kernel
  exact ⟨parsed, charts_from_index_are_its_live_names parsed repo⟩

end ChartCatalog
