import ChartCatalog.Proofs.Json.Text
import ChartCatalog.Proofs.Store.Collection

/-!
# Charts read back from the forms the stores keep

The relational store keeps a chart as the text of its JSON form and the document store
as its JSON form with its key as `_id`; an icon update reads the chart and writes it
back with its icon, or sets the icon members of its document in place. Each of these
reads back as the chart (`charts_read_back_from_stored_forms`), for every chart whose
instants are valid: any texts, any icon bytes, icon and icon type present or absent, and
every instant the timestamp format has, leap seconds and years outside `0000`–`9999`
included.

The text reads back because a chart's JSON form is canonical (`Chart.canonical_toJson`):
it holds no numbers, and each of its objects lists its members in increasing key order.
-/

set_option autoImplicit false

namespace ChartCatalog

open Json

theorem RepoRef.canonical_toJson (r : RepoRef) : r.toJson.Canonical :=
  Canonical.obj_of_keys rfl (by decide : ["name", "namespace", "url"].Pairwise (· < ·)) (by simp)

theorem Maintainer.canonical_toJson (m : Maintainer) : m.toJson.Canonical :=
  Canonical.obj_of_keys rfl (by decide : ["email", "name", "url"].Pairwise (· < ·)) (by simp)

theorem ChartVersion.canonical_toJson (v : ChartVersion) : v.toJson.Canonical := by
  have keys : ["app_version", "created", "digest", "urls", "version"].Pairwise (· < ·) := by
    decide
  obtain ⟨version, appVersion, created, digest, urls⟩ := v
  cases created <;> exact Canonical.obj_of_keys rfl keys (by simp)

/-- A chart's JSON form is canonical, so its text reads back. -/
theorem Chart.canonical_toJson (chart : Chart) : chart.toJson.Canonical := by
  simp only [Chart.toJson]
  refine Canonical.ofFields ?_
  cases chart.rawIcon <;> cases chart.iconContentType <;>
    simp [RepoRef.canonical_toJson, Maintainer.canonical_toJson, ChartVersion.canonical_toJson]

/-- A chart with valid instants reads back from each form a store keeps it in: the text of
its JSON form, which the relational store keeps and rewrites on an icon update, and the
document the document store keeps, also after an icon update has set its icon members in
place. -/
theorem charts_read_back_from_stored_forms (chart : Chart) (valid : chart.TimesValid) :
    (Json.parse? (Json.render chart.toJson)).map Chart.ofJson = some (.ok chart) ∧
      DocumentCatalog.decodeDocument Chart.ofJson chart.document = .ok chart ∧
      ∀ icon contentType,
        DocumentCatalog.decodeDocument Chart.ofJson
            (Json.merge chart.document
              [("raw_icon", .str (Base64.encode icon)), ("icon_content_type", .str contentType)]) =
          .ok { chart with rawIcon := some icon, iconContentType := some contentType } := by
  -- the document store keeps an object; reading it back reads its members
  obtain ⟨members, form⟩ : ∃ members, chart.document = .obj members := ⟨_, rfl⟩
  have stored : SameMembers (.obj members) chart.document := by
    rw [form]
    exact SameMembers.refl members
  refine ⟨?text, ?document, ?icon⟩
  case text =>
    rw [parse?_render chart.canonical_toJson, Option.map_some, Chart.ofJson_toJson valid]
  case document =>
    rw [form]
    simp only [DocumentCatalog.decodeDocument, Chart.ofJson_of_sameMembers stored valid]
  case icon =>
    intro icon contentType
    -- setting the icon members gives an object with the members of the stored form of the
    -- chart with that icon
    have back : Chart.ofJson (.obj ([("raw_icon", Json.str (Base64.encode icon)),
        ("icon_content_type", .str contentType)].foldl
          (fun acc field => insertField field.1 field.2 acc) members)) =
        .ok { chart with rawIcon := some icon, iconContentType := some contentType } :=
      Chart.ofJson_of_sameMembers (Chart.sameMembers_withIcon stored icon contentType) valid
    rw [form, merge_obj]
    simp only [DocumentCatalog.decodeDocument, back]

/-- A chart created half a second into a leap second of a year before `0000`, with quotes
and a line break in its description and a two-byte icon. -/
theorem charts_read_back_from_stored_forms_leap_second :
    let chart : Chart :=
      ⟨"c", "c", ⟨"r", "default", "http://r.test/charts"⟩, "\"q\"\n", "", ["k"], [⟨"m", "", ""⟩], [],
        "", some (ByteArray.mk #[0, 255]), none, [⟨"1", "", some ⟨-1000000, 86399, 1500000000⟩, "", []⟩]⟩;
    chart.TimesValid ∧
      (Json.parse? (Json.render chart.toJson)).map Chart.ofJson = some (.ok chart) ∧
      DocumentCatalog.decodeDocument Chart.ofJson chart.document = .ok chart ∧
      ∀ icon contentType,
        DocumentCatalog.decodeDocument Chart.ofJson
            (Json.merge chart.document
              [("raw_icon", .str (Base64.encode icon)), ("icon_content_type", .str contentType)]) =
          .ok { chart with rawIcon := some icon, iconContentType := some contentType } := by
  intro chart
  have leap : (⟨-1000000, 86399, 1500000000⟩ : Instant).Valid :=
    ⟨by decide, by decide, fun _ => by decide, by decide, by decide⟩
  have valid : chart.TimesValid := by
    intro v member t created
    simp only [chart, List.mem_singleton] at member
    subst member
    simp only [Option.mem_def, Option.some.injEq] at created
    subst created
    exact leap
  exact ⟨valid, charts_read_back_from_stored_forms chart valid⟩

end ChartCatalog
