import ChartCatalog.Proofs.Json.Members
import ChartCatalog.Proofs.Time.Timestamp
import ChartCatalog.Proofs.Text.Base64
import ChartCatalog.Catalog.Json

/-!
# Records read back from their JSON form

Every record of the catalog reads back from the JSON form it is written in, and from any
object with the same members. The document store keeps each record as its JSON form
with its key added as `_id` (`Chart.document`), and a chart keeps reading back as itself
after its icon members are set in place.

Instants are written as text, so a record reads back when its instants are valid
(`Chart.TimesValid`); a stored icon is written in base64, which always reads back.
-/

set_option autoImplicit false

namespace ChartCatalog

open Json

/-! ## Lists and options -/

/-- A read that succeeded goes on with its value. -/
@[simp] theorem ok_bind {ε α β : Type} (a : α) (f : α → Except ε β) :
    (Except.ok a >>= f) = f a := rfl

@[simp] theorem pure_eq_ok {ε α : Type} (a : α) : (pure a : Except ε α) = .ok a := rfl

/-- A list written item by item reads back when each of its items does. -/
theorem readList_arr_map {α : Type} (encode : α → Json) (read : Json → Except String α)
    (xs : List α) (back : ∀ x ∈ xs, read (encode x) = .ok x) :
    readList read (.arr (xs.map encode)) = .ok xs := by
  simp only [readList]
  induction xs with
  | nil => rfl
  | cons x rest ih =>
    have first := back x List.mem_cons_self
    have others := ih fun y mem => back y (List.mem_cons_of_mem _ mem)
    simp [List.mapM_cons, first, others]

theorem readInstant_text {t : Instant} (valid : t.Valid) : readInstant (.str t.text) = .ok t := by
  simp only [readInstant, readText, ok_bind, Instant.parse?_text valid, pure_eq_ok]

/-! ## Records -/

theorem RepoRef.ofJson_toJson (r : RepoRef) : RepoRef.ofJson r.toJson = .ok r := rfl

/-- The members of a repository reference that the store selects records by. -/
theorem RepoRef.get?_toJson (r : RepoRef) :
    r.toJson.get? "name" = some (.str r.name) ∧ r.toJson.get? "namespace" = some (.str r.ns) := by
  simp [RepoRef.toJson, get?, List.lookup_cons]

theorem Maintainer.ofJson_toJson (m : Maintainer) : Maintainer.ofJson m.toJson = .ok m := rfl

/-- The instants of a version are valid. -/
def ChartVersion.TimesValid (v : ChartVersion) : Prop := ∀ t ∈ v.created, t.Valid

theorem ChartVersion.ofJson_toJson {v : ChartVersion} (valid : v.TimesValid) :
    ChartVersion.ofJson v.toJson = .ok v := by
  obtain ⟨version, appVersion, created, digest, urls⟩ := v
  have urlsBack := readList_arr_map Json.str readText urls fun _ _ => rfl
  cases created with
  | none =>
    simp [ChartVersion.ofJson, ChartVersion.toJson, fieldsOf, Fields.need, Fields.withDefault,
      Fields.get?, readOption, urlsBack, readText, List.lookup_cons]
  | some t =>
    have back := readInstant_text (valid t rfl)
    simp [ChartVersion.ofJson, ChartVersion.toJson, fieldsOf, Fields.need, Fields.withDefault,
      Fields.get?, readOption, urlsBack, back, readText, Except.map, List.lookup_cons]

/-- The instants of a chart's versions are valid. -/
def Chart.TimesValid (chart : Chart) : Prop := ∀ v ∈ chart.versions, v.TimesValid

/-- A chart as the document store keeps it: its JSON form, with its id as `_id`. -/
def Chart.document (chart : Chart) : Json := chart.toJson.set "_id" (.str chart.id)

theorem get?_set_ofFields (fields : List (String × Json)) (key : String) (member : Json)
    (k : String) :
    ((ofFields fields).set key member).get? k =
      if k = key then some member else fields.reverse.lookup k := by
  rw [ofFields, get?_set_obj, lookup_foldl_insertField]
  simp

theorem readBase64_encode (bytes : ByteArray) :
    readBase64 (.str (Base64.encode bytes)) = .ok bytes := by
  simp [readBase64, readText, Base64.decode?_encode]

/-- A chart reads back from every object with the members of its stored form, whatever
its `_id`. -/
theorem Chart.ofJson_of_members {members : List (String × Json)} {chart : Chart}
    (member : ∀ k, k ≠ "_id" → members.lookup k = chart.document.get? k) (valid : chart.TimesValid) :
    Chart.ofJson (.obj members) = .ok chart := by
  have versionsBack := readList_arr_map ChartVersion.toJson ChartVersion.ofJson chart.versions
    fun v mem => ChartVersion.ofJson_toJson (valid v mem)
  have maintainersBack := readList_arr_map Maintainer.toJson Maintainer.ofJson chart.maintainers
    fun m _ => Maintainer.ofJson_toJson m
  have keywordsBack := readList_arr_map Json.str readText chart.keywords fun _ _ => rfl
  have sourcesBack := readList_arr_map Json.str readText chart.sources fun _ _ => rfl
  -- a chart is read from its twelve named members, none of them `_id`
  simp (disch := decide) only [Chart.ofJson, fieldsOf, ok_bind, Fields.need, Fields.withDefault,
    Fields.get?, member]
  obtain ⟨id, name, repo, description, home, keywords, maintainers, sources, icon, rawIcon,
    iconContentType, versions⟩ := chart
  -- the stored icon and its type are members only when the chart has them
  cases rawIcon <;> cases iconContentType <;>
    simp [Chart.document, Chart.toJson, get?_set_ofFields, List.lookup_cons, readText,
      readOption, readBase64_encode, RepoRef.ofJson_toJson, Except.map, versionsBack,
      maintainersBack, keywordsBack, sourcesBack]

/-- A chart reads back from its JSON form. -/
theorem Chart.ofJson_toJson {chart : Chart} (valid : chart.TimesValid) :
    Chart.ofJson chart.toJson = .ok chart := by
  obtain ⟨members, form⟩ : ∃ members, chart.toJson = .obj members := ⟨_, rfl⟩
  rw [form]
  refine Chart.ofJson_of_members (fun k notId => ?_) valid
  rw [Chart.document, form, get?_set_obj, if_neg notId]

/-- A chart reads back from every object with the members of its stored form. -/
theorem Chart.ofJson_of_sameMembers {doc : Json} {chart : Chart}
    (same : SameMembers doc chart.document) (valid : chart.TimesValid) :
    Chart.ofJson doc = .ok chart := by
  obtain ⟨members, stored, rfl, storedForm, lookups⟩ := same
  refine Chart.ofJson_of_members (fun k _ => ?_) valid
  rw [lookups k, storedForm]
  rfl

/-- Where each member of a chart's stored form comes from: its id, its icon and its type
when it has them, and otherwise the JSON form of the chart without an icon. -/
theorem Chart.get?_document (chart : Chart) (k : String) :
    chart.document.get? k =
      if k = "_id" then some (.str chart.id)
      else if k = "raw_icon" then chart.rawIcon.map fun bytes => .str (Base64.encode bytes)
      else if k = "icon_content_type" then chart.iconContentType.map .str
      else ({ chart with rawIcon := none, iconContentType := none }).toJson.get? k := by
  obtain ⟨id, name, repo, description, home, keywords, maintainers, sources, icon, rawIcon,
    iconContentType, versions⟩ := chart
  by_cases isId : k = "_id"
  · simp [isId, Chart.document, Chart.toJson, get?_set_ofFields]
  by_cases isIcon : k = "raw_icon"
  · subst isIcon
    cases rawIcon <;> cases iconContentType <;>
      simp [Chart.document, Chart.toJson, get?_set_ofFields, List.lookup_cons]
  by_cases isType : k = "icon_content_type"
  · subst isType
    cases rawIcon <;> cases iconContentType <;>
      simp [Chart.document, Chart.toJson, get?_set_ofFields, List.lookup_cons]
  · cases rawIcon <;> cases iconContentType <;>
      simp [Chart.document, Chart.toJson, get?_set_ofFields, get?_ofFields, isId, isIcon, isType,
        List.lookup_cons, beq_false_of_ne isIcon, beq_false_of_ne isType]


/-- Setting the icon members of a stored chart gives the stored form of the chart with that
icon. -/
theorem Chart.sameMembers_withIcon {members : List (String × Json)} {chart : Chart}
    (same : SameMembers (.obj members) chart.document) (icon : ByteArray) (contentType : String) :
    SameMembers
      (.obj ([("raw_icon", Json.str (Base64.encode icon)), ("icon_content_type", .str contentType)].foldl
        (fun acc (k, v) => insertField k v acc) members))
      ({ chart with rawIcon := some icon, iconContentType := some contentType }).document := by
  obtain ⟨_, stored, same, storedForm, lookups⟩ := same
  cases same
  obtain ⟨fields, form⟩ : ∃ fields,
      ({ chart with rawIcon := some icon, iconContentType := some contentType }).document =
        .obj fields := ⟨_, rfl⟩
  refine ⟨_, fields, rfl, form, fun k => ?_⟩
  have before : members.lookup k = chart.document.get? k := by rw [lookups k, storedForm]; rfl
  have after : fields.lookup k =
      ({ chart with rawIcon := some icon, iconContentType := some contentType }).document.get? k := by
    rw [form]; rfl
  rw [lookup_foldl_insertField, before, after, Chart.get?_document, Chart.get?_document]
  -- the icon members are the ones set; every other member is the chart's own
  by_cases isId : k = "_id"
  · simp [isId, List.lookup_cons]
  by_cases isIcon : k = "raw_icon"
  · simp [isIcon, List.lookup_cons]
  by_cases isType : k = "icon_content_type"
  · simp [isType]
  · simp [isId, isIcon, isType, List.lookup_cons, beq_false_of_ne isIcon, beq_false_of_ne isType]

/-- Chart files as the document store keeps them: their JSON form with the id of their
chart as `chart_id` and their own id as `_id`. -/
def ChartFiles.document (files : ChartFiles) (chartId : String) : Json :=
  (files.toJson.set "chart_id" (.str chartId)).set "_id" (.str files.id)

/-- The members of stored chart files that the store selects them by. -/
theorem ChartFiles.get?_document (files : ChartFiles) (chartId : String) :
    (files.document chartId).get? "_id" = some (.str files.id) ∧
      (files.document chartId).get? "repo" = some files.repo.toJson ∧
      (files.document chartId).get? "digest" = some (.str files.digest) := by
  simp [ChartFiles.document, ChartFiles.toJson, Json.set, get?, lookup_insertField_eq_ite,
    List.lookup_cons]

theorem ChartFiles.ofJson_document (files : ChartFiles) (chartId : String) :
    ChartFiles.ofJson (files.document chartId) = .ok files := by
  obtain ⟨id, readme, values, schema, repo, digest⟩ := files
  simp [ChartFiles.document, ChartFiles.toJson, ChartFiles.ofJson, Json.set, fieldsOf, Fields.need,
    Fields.withDefault, Fields.get?, lookup_insertField_eq_ite, List.lookup_cons, readText,
    RepoRef.ofJson_toJson]

/-- A checkpoint as the document store keeps it: its JSON form with the repository name
as `_id`. -/
def Checkpoint.document (checkpoint : Checkpoint) : Json :=
  checkpoint.toJson.set "_id" (.str checkpoint.name)

/-- The members of a stored checkpoint that the store selects it by. -/
theorem Checkpoint.get?_document (checkpoint : Checkpoint) :
    checkpoint.document.get? "_id" = some (.str checkpoint.name) ∧
      checkpoint.document.get? "checksum" = some (.str checkpoint.checksum) := by
  simp [Checkpoint.document, Checkpoint.toJson, Json.set, get?, lookup_insertField_eq_ite]

theorem Checkpoint.ofJson_document {checkpoint : Checkpoint} (valid : checkpoint.lastUpdate.Valid) :
    Checkpoint.ofJson checkpoint.document = .ok checkpoint := by
  obtain ⟨name, ns, checksum, lastUpdate⟩ := checkpoint
  have back := readInstant_text valid
  simp [Checkpoint.document, Checkpoint.toJson, Checkpoint.ofJson, Json.set, fieldsOf, Fields.need,
    Fields.withDefault, Fields.get?, lookup_insertField_eq_ite, List.lookup_cons, readText, back]

end ChartCatalog
