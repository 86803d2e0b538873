import ChartCatalog.Proofs.Sync.Ledger
import ChartCatalog.Proofs.Sync.Report

/-!
# The chart files a pass stores

A pass stores the chart files of each version of the index's charts under the version's
files id, `<chart id>-<version>`. A files job skips a version whose files id already holds a
record of the repository, namespace and digest; for the others it downloads the archive of
the group's first missing version, once, and writes a record for each of them from it.

Files ids of two versions of one index can coincide: version `1-2` of chart `foo` and version
`2` of chart `foo-1` both have the files id `<repository>/foo-1-2`. The jobs of the two charts
then write one record, and the later one overwrites the earlier. So the files of a version
are its own only when no two versions of the index of different charts or digests share a
files id (`FilesIdsApart`). Under that condition, a pass that reports no failed files job
leaves every version of the index with a record of the repository, namespace and digest
under its files id: the record stored before the pass, or one written from an archive of a
version of the same chart with that digest (`Pass.FilesStored`). A record kept from before
may name the repository under an older URL, since the skip check does not compare URLs.

The jobs are followed with `Online.Leads`, which says what a computation leads to from a
state and what it leaves when it fails. The invariant `Pass.FilesHold` carries the proof
through the jobs in any order: the catalog stays well formed, every record under a files id
of the index was stored before or downloaded for its version, and the versions done so far
are filed. A files job downloads at most one archive, and none when every version of its
group is filed (`Pass.importFilesUnder_requests`).
-/

set_option autoImplicit false

namespace ChartCatalog

open Http

/-! ## Chart files in the store -/

namespace RelationalCatalog

variable {r r' : RelationalCatalog}

theorem filesExist_eq_true_iff (filesId repoName ns digest : String) :
    r.filesExist filesId repoName ns digest = true ↔
      ∃ f, r.getFiles filesId = some f ∧ f.repo.name = repoName ∧ f.repo.ns = ns ∧
        f.digest = digest := by
  unfold filesExist getFiles
  cases r.files.get? filesId with
  | none => simp
  | some row => simp [and_assoc]

theorem getFiles_insertFiles (sorted : r.files.Sorted) (chartId : String) (files : ChartFiles)
    (filesId : String) :
    (r.insertFiles chartId files).getFiles filesId =
      if filesId = files.id then some files else r.getFiles filesId := by
  unfold insertFiles getFiles
  split
  · next same =>
    subst same
    simp only [Table.get?_insert, Option.map_some]
  · next other => simp only [Table.get?_insert_ne sorted _ other]

/-- An icon update leaves the chart files. -/
theorem files_updateIcon {repo : Repo} {chartId : String} {icon : ByteArray} {contentType : String}
    (updated : r.updateIcon repo chartId icon contentType = .ok r') : r'.files = r.files := by
  simp only [updateIcon] at updated
  split at updated
  · split at updated
    · cases updated
      rfl
    · cases updated
  · cases updated

end RelationalCatalog

namespace Catalog

variable {c c' : Catalog}

/-- A well-formed catalog reads chart files as a relational catalog with its files in key
order does. -/
theorem WellFormed.files_relational (wf : c.WellFormed) :
    ∃ r : RelationalCatalog, r.files.Sorted ∧
      (∀ filesId, c.getFiles filesId = .ok (r.getFiles filesId)) ∧
      ∀ filesId repoName ns digest,
        c.filesExist filesId repoName ns digest = r.filesExist filesId repoName ns digest := by
  cases c with
  | relational r =>
    have wf : r.WellFormed := wf
    exact ⟨r, wf.filesSorted, fun _ => rfl, fun _ _ _ _ => rfl⟩
  | documents d =>
    obtain ⟨r, mirror⟩ := wf
    exact ⟨r, mirror.filesSorted, mirror.getFiles, mirror.filesExist⟩

/-- In a well-formed catalog, chart files exist for a repository, namespace and digest
exactly when the record under the id has them. -/
theorem WellFormed.filesExist_eq_true_iff (wf : c.WellFormed) (filesId repoName ns digest : String) :
    c.filesExist filesId repoName ns digest = true ↔
      ∃ f, c.getFiles filesId = .ok (some f) ∧ f.repo.name = repoName ∧ f.repo.ns = ns ∧
        f.digest = digest := by
  obtain ⟨r, -, reads, exist⟩ := wf.files_relational
  simp only [reads, exist, RelationalCatalog.filesExist_eq_true_iff, Except.ok.injEq]

/-- Chart files written to a well-formed catalog are read back under their id, and every
other id reads as before. -/
theorem WellFormed.getFiles_insertFiles (wf : c.WellFormed) {chartId : String} {files : ChartFiles}
    (written : c.insertFiles chartId files = .ok c') (filesId : String) :
    c'.getFiles filesId = if filesId = files.id then .ok (some files) else c.getFiles filesId := by
  cases c with
  | relational r =>
    have wf : r.WellFormed := wf
    cases written
    by_cases same : filesId = files.id <;>
      simp [getFiles, RelationalCatalog.getFiles_insertFiles wf.filesSorted, same]
  | documents d =>
    obtain ⟨r, mirror⟩ := wf
    obtain ⟨d', inserted, mirror'⟩ := mirror.insertFiles chartId files
    simp only [Catalog.insertFiles, inserted, Except.map, Except.ok.injEq] at written
    subst written
    by_cases same : filesId = files.id <;>
      simp [getFiles, mirror'.getFiles, mirror.getFiles,
        RelationalCatalog.getFiles_insertFiles mirror.filesSorted, same]

/-- An icon update leaves every chart files record. -/
theorem getFiles_updateIcon {repo : Repo} {chartId : String} {icon : ByteArray} {contentType : String}
    (updated : c.updateIcon repo chartId icon contentType = .ok c') : c'.getFiles = c.getFiles := by
  cases c with
  | relational r =>
    cases changed : r.updateIcon repo chartId icon contentType with
    | error e => simp [Catalog.updateIcon, changed, Except.map] at updated
    | ok r' =>
      simp only [Catalog.updateIcon, changed, Except.map, Except.ok.injEq] at updated
      subst updated
      funext filesId
      simp only [getFiles, RelationalCatalog.getFiles, RelationalCatalog.files_updateIcon changed]
  | documents d =>
    simp only [Catalog.updateIcon, DocumentCatalog.updateIcon_eq] at updated
    split at updated
    · cases updated
    · simp only [Except.map, Except.ok.injEq] at updated
      subst updated
      rfl

/-- A sync writes charts only: every chart files record stays. -/
theorem getFiles_sync {repo : Repo} {charts : List Chart} {removed : Nat}
    (synced : c.sync repo charts = .ok (removed, c')) : c'.getFiles = c.getFiles := by
  cases c with
  | relational r =>
    simp only [Catalog.sync, Catalog.importCharts, ok_bind, Catalog.removeMissing, pure_eq_ok,
      Except.ok.injEq, Prod.mk.injEq] at synced
    rw [← synced.2]
    rfl
  | documents d =>
    simp only [Catalog.sync, Catalog.importCharts, DocumentCatalog.importCharts_eq, Except.map,
      ok_bind, Catalog.removeMissing, pure_eq_ok, Except.ok.injEq, Prod.mk.injEq] at synced
    rw [← synced.2]
    rfl

/-- A checkpoint leaves every chart files record. -/
theorem getFiles_updateLastCheck {repo : Repo} {checksum : String} {now : Instant}
    (written : c.updateLastCheck repo checksum now = .ok c') : c'.getFiles = c.getFiles := by
  cases c with
  | relational r =>
    cases written
    rfl
  | documents d =>
    simp only [Catalog.updateLastCheck, DocumentCatalog.updateLastCheck_eq, Except.map,
      Except.ok.injEq] at written
    subst written
    rfl

/-- What the icon writes of a pass keep: a well-formed catalog stays well formed and reads
the same chart files. -/
def FilesKept (c c' : Catalog) : Prop := c.WellFormed → c'.WellFormed ∧ c'.getFiles = c.getFiles

instance : Std.Refl FilesKept := ⟨fun _ wf => ⟨wf, rfl⟩⟩

instance : IsTrans Catalog FilesKept := ⟨fun _ _ _ first second wf => by
  obtain ⟨wf', same⟩ := first wf
  obtain ⟨wf'', same'⟩ := second wf'
  exact ⟨wf'', same'.trans same⟩⟩

theorem filesKept_updateIcon {repo : Repo} {chartId : String} {icon : ByteArray}
    {contentType : String} (updated : c.updateIcon repo chartId icon contentType = .ok c') :
    c.FilesKept c' :=
  fun wf => ⟨(artifactsOnly_updateIcon updated wf).1, getFiles_updateIcon updated⟩

end Catalog

/-- A write that gives no value succeeds exactly when the catalog operation does. -/
theorem map_unit_eq_ok {o : Outcome Catalog} {u : Unit} {c : Catalog} :
    o.map ((), ·) = .ok (u, c) ↔ o = .ok c := by
  cases o <;> simp [Except.map]

/-! ## Digest groups and files jobs -/

theorem mem_flatten_addToGroups {v w : ChartVersion} (groups : List (List ChartVersion)) :
    w ∈ (addToGroups v groups).flatten ↔ w = v ∨ w ∈ groups.flatten := by
  induction groups with
  | nil => simp [addToGroups]
  | cons g rest ih =>
    unfold addToGroups
    split <;> simp [ih, or_left_comm]

/-- A version joins only a group whose first version has its digest. -/
theorem digests_addToGroups {v : ChartVersion} {groups : List (List ChartVersion)}
    (alike : ∀ g ∈ groups, ∀ u ∈ g, ∀ w ∈ g, u.digest = w.digest) :
    ∀ g ∈ addToGroups v groups, ∀ u ∈ g, ∀ w ∈ g, u.digest = w.digest := by
  induction groups with
  | nil => simp [addToGroups]
  | cons g rest ih =>
    have restAlike : ∀ g' ∈ rest, ∀ u ∈ g', ∀ w ∈ g', u.digest = w.digest :=
      fun g' member => alike g' (List.mem_cons_of_mem g member)
    unfold addToGroups
    split
    · next joins =>
      obtain ⟨first, head, same⟩ : ∃ first, g.head? = some first ∧ first.digest = v.digest := by
        simp only [Bool.and_eq_true, Bool.not_eq_true', beq_iff_eq, Option.map_eq_some_iff] at joins
        exact joins.2
      have toFirst : ∀ u ∈ g ++ [v], u.digest = first.digest := by
        intro u member
        rcases List.mem_append.1 member with inGroup | isNew
        · exact alike g List.mem_cons_self u inGroup first (List.mem_of_mem_head? head)
        · rw [List.mem_singleton.1 isNew, same]
      intro g' member u inU w inW
      rcases List.mem_cons.1 member with rfl | inRest
      · rw [toFirst u inU, toFirst w inW]
      · exact restAlike g' inRest u inU w inW
    · intro g' member
      rcases List.mem_cons.1 member with rfl | inRest
      · exact alike g' List.mem_cons_self
      · exact ih restAlike g' inRest

/-- The digest groups of versions hold exactly the versions, and the versions of a group
share one digest. -/
theorem digestGroups_spec (versions : List ChartVersion) :
    (∀ v, v ∈ (digestGroups versions).flatten ↔ v ∈ versions) ∧
      ∀ g ∈ digestGroups versions, ∀ u ∈ g, ∀ w ∈ g, u.digest = w.digest := by
  -- the groups are built by a left fold, so the groups built so far are generalised
  have grown : ∀ (vs : List ChartVersion) (groups : List (List ChartVersion)),
      (∀ g ∈ groups, ∀ u ∈ g, ∀ w ∈ g, u.digest = w.digest) →
      (∀ v, v ∈ (vs.foldl (fun groups v => addToGroups v groups) groups).flatten ↔
          v ∈ groups.flatten ∨ v ∈ vs) ∧
        ∀ g ∈ vs.foldl (fun groups v => addToGroups v groups) groups, ∀ u ∈ g, ∀ w ∈ g,
          u.digest = w.digest := by
    intro vs
    induction vs with
    | nil => exact fun groups alike => ⟨fun v => by simp, alike⟩
    | cons v rest ih =>
      intro groups alike
      obtain ⟨members, alike'⟩ := ih (addToGroups v groups) (digests_addToGroups alike)
      refine ⟨fun w => ?_, alike'⟩
      rw [List.foldl_cons, members, mem_flatten_addToGroups, List.mem_cons]
      simp only [or_assoc, or_left_comm]
  obtain ⟨members, alike⟩ := grown versions [] (by simp)
  refine ⟨fun v => ?_, alike⟩
  rw [digestGroups, members]
  simp

theorem files_mem_filesJobs {charts : List Chart}
    {pick : List (List ChartVersion) → List (List ChartVersion)} {chart : Chart}
    {group : List ChartVersion} :
    ArtifactJob.files chart group ∈ filesJobs charts pick ↔
      chart ∈ charts ∧ group ∈ pick (digestGroups chart.versions) := by
  simp only [filesJobs, List.mem_flatMap, List.mem_map, ArtifactJob.files.injEq]
  constructor
  · rintro ⟨_, ⟨c, member, rfl⟩, g, picked, rfl, rfl⟩
    exact ⟨member, picked⟩
  · rintro ⟨member, picked⟩
    exact ⟨_, ⟨chart, member, rfl⟩, group, picked, rfl, rfl⟩

/-- The files jobs of a chart set are one for each digest group of each of its charts. -/
theorem files_mem_artifactJobs {charts : List Chart} {chart : Chart} {group : List ChartVersion} :
    ArtifactJob.files chart group ∈ artifactJobs charts ↔
      chart ∈ charts ∧ group ∈ digestGroups chart.versions := by
  have notIcon : ArtifactJob.files chart group ∉ charts.filterMap fun c =>
      if (Text.trim c.icon).isEmpty then none else some (ArtifactJob.icon c) := by
    simp only [List.mem_filterMap, not_exists, not_and]
    intro c _
    split <;> simp
  -- the newest group and the older ones make up the groups
  have parts : ∀ g, g ∈ (digestGroups chart.versions).take 1 ∨ g ∈ (digestGroups chart.versions).drop 1 ↔
      g ∈ digestGroups chart.versions := by
    intro g
    rw [← List.mem_append, List.take_append_drop]
  rw [artifactJobs_eq, List.mem_append, List.mem_append, files_mem_filesJobs, files_mem_filesJobs]
  constructor
  · rintro ((icon | ⟨member, picked⟩) | ⟨member, picked⟩)
    · exact absurd icon notIcon
    · exact ⟨member, (parts group).1 (.inl picked)⟩
    · exact ⟨member, (parts group).1 (.inr picked)⟩
  · rintro ⟨member, grouped⟩
    rcases (parts group).2 grouped with picked | picked
    · exact .inl (.inr ⟨member, picked⟩)
    · exact .inr ⟨member, picked⟩

/-- Every version of every chart is in a files job. -/
theorem exists_files_mem_artifactJobs {charts : List Chart} {chart : Chart} {version : ChartVersion}
    (member : chart ∈ charts) (listed : version ∈ chart.versions) :
    ∃ group, ArtifactJob.files chart group ∈ artifactJobs charts ∧ version ∈ group := by
  obtain ⟨group, grouped, inGroup⟩ :=
    List.mem_flatten.1 (((digestGroups_spec chart.versions).1 version).2 listed)
  exact ⟨group, files_mem_artifactJobs.2 ⟨member, grouped⟩, inGroup⟩

/-! ## Where chart files come from -/

/-- No two versions of a chart set share a files id unless they are versions of one chart
with one digest. -/
def FilesIdsApart (charts : List Chart) : Prop :=
  ∀ c₁ ∈ charts, ∀ v₁ ∈ c₁.versions, ∀ c₂ ∈ charts, ∀ v₂ ∈ c₂.versions,
    chartFilesId c₁.id v₁.version = chartFilesId c₂.id v₂.version → c₁ = c₂ ∧ v₁.digest = v₂.digest

namespace Pass

/-- Chart files downloaded for a version of a chart: the record a files job writes for the
version under its files id, from the chart's members in the archive of a version of the same
chart with the same digest, fetched with the repository's credentials. -/
def Downloaded (fetch : Fetch) (repo : Repo) (chart : Chart) (version : ChartVersion)
    (f : ChartFiles) : Prop :=
  ∃ first ∈ chart.versions, first.digest = version.digest ∧ ∃ url response files,
    Repository.archiveUrl repo.url first = .ok url ∧
    ((fetch ⟨url, repo.authHeader⟩).bind fun r => r.checked url) = .ok response ∧
    Tar.extract (Tar.chartMemberPaths chart.name) (Gzip.source response.body) = .ok files ∧
    f = filesRecord repo files (chartFilesId chart.id version.version) version

/-- Every version of the charts has chart files under its files id, of the repository and
namespace and with the version's digest: the record the catalog read as `old`, or one
downloaded for the version. -/
def FilesStored (fetch : Fetch) (repo : Repo) (charts : List Chart)
    (old : String → Outcome (Option ChartFiles)) (c : Catalog) : Prop :=
  ∀ chart ∈ charts, ∀ version ∈ chart.versions, ∃ f,
    c.getFiles (chartFilesId chart.id version.version) = .ok (some f) ∧
    f.repo.name = repo.name ∧ f.repo.ns = repo.ns ∧ f.digest = version.digest ∧
    (old (chartFilesId chart.id version.version) = .ok (some f) ∨ Downloaded fetch repo chart version f)

/-- The archive request a files job makes from a catalog: the archive URL of the first
version of its group whose files are missing, with the repository's credentials. There is
none when the files of every version are stored for the repository, namespace and digest,
or when that version has no archive URL. -/
def archiveRequest (c : Catalog) (repo : Repo) (chart : Chart) (versions : List ChartVersion) :
    Option Request :=
  match missingFiles c repo chart versions with
  | [] => none
  | (_, first) :: _ => (Repository.archiveUrl repo.url first).toOption.map fun url => ⟨url, repo.authHeader⟩

section Records

variable {fetch : Fetch} {repo : Repo} {chart : Chart} {version version' : ChartVersion}
  {f : ChartFiles}

/-- A downloaded record names the version's files id, the repository and the version's
digest. -/
theorem Downloaded.record (downloaded : Downloaded fetch repo chart version f) :
    f.id = chartFilesId chart.id version.version ∧ f.repo = repo.reference ∧
      f.digest = version.digest := by
  obtain ⟨-, -, -, -, -, -, -, -, -, rfl⟩ := downloaded
  exact ⟨rfl, rfl, rfl⟩

/-- A record downloaded for a version is one downloaded for every version of the chart with
its files id and digest. -/
theorem Downloaded.of_digest (downloaded : Downloaded fetch repo chart version f)
    (digest : version'.digest = version.digest)
    (sameId : chartFilesId chart.id version'.version = chartFilesId chart.id version.version) :
    Downloaded fetch repo chart version' f := by
  obtain ⟨first, member, same, url, response, files, located, answered, extracted, rfl⟩ := downloaded
  refine ⟨first, member, same.trans digest.symm, url, response, files, located, answered,
    extracted, ?_⟩
  simp only [filesRecord, sameId, digest]

/-- A version of a group is missing, under its files id, exactly when its files are not
stored for the repository, namespace and digest. -/
theorem mem_missingFiles {c : Catalog} {versions : List ChartVersion} {filesId : String} :
    (filesId, version) ∈ missingFiles c repo chart versions ↔
      version ∈ versions ∧ filesId = chartFilesId chart.id version.version ∧
        c.filesExist filesId repo.name repo.ns version.digest = false := by
  simp only [missingFiles, List.mem_filter, List.mem_map, Prod.mk.injEq, Bool.not_eq_true']
  constructor
  · rintro ⟨⟨v, listed, rfl, rfl⟩, absent⟩
    exact ⟨listed, rfl, absent⟩
  · rintro ⟨listed, rfl, absent⟩
    exact ⟨⟨version, listed, rfl, rfl⟩, absent⟩

/-- Every version of a group is missing, or its files are stored for the repository,
namespace and digest. -/
theorem missing_or_filesExist {c : Catalog} {versions : List ChartVersion}
    (listed : version ∈ versions) :
    (∃ filesId, (filesId, version) ∈ missingFiles c repo chart versions) ∨
      c.filesExist (chartFilesId chart.id version.version) repo.name repo.ns version.digest = true := by
  by_cases found :
      c.filesExist (chartFilesId chart.id version.version) repo.name repo.ns version.digest = true
  · exact .inr found
  · exact .inl ⟨_, mem_missingFiles.2 ⟨listed, rfl, by simpa using found⟩⟩

end Records

/-! ## The invariant of the files jobs -/

section Invariant

variable (fetch : Fetch) (repo : Repo) (charts : List Chart)
  (old : String → Outcome (Option ChartFiles))

/-- The chart files of a version of a chart are filed: its files id holds a record of the
repository and namespace with the version's digest. -/
def Filed (c : Catalog) (chart : Chart) (version : ChartVersion) : Prop :=
  ∃ f, c.getFiles (chartFilesId chart.id version.version) = .ok (some f) ∧
    f.repo.name = repo.name ∧ f.repo.ns = repo.ns ∧ f.digest = version.digest

/-- What the files jobs of a pass over `charts` keep, from a catalog that read chart files
as `old`: the catalog stays well formed, every record under a files id of the charts was
there before or was downloaded for the version, and the versions `done` are filed. -/
structure FilesHold (done : Chart → ChartVersion → Prop) (c : Catalog) : Prop where
  wellFormed : c.WellFormed
  kept : ∀ chart ∈ charts, ∀ version ∈ chart.versions, ∀ f,
    c.getFiles (chartFilesId chart.id version.version) = .ok (some f) →
      old (chartFilesId chart.id version.version) = .ok (some f) ∨
        Downloaded fetch repo chart version f
  filed : ∀ chart ∈ charts, ∀ version ∈ chart.versions, done chart version →
    Filed repo c chart version

end Invariant

namespace FilesHold

variable {fetch : Fetch} {repo : Repo} {charts : List Chart}
  {old : String → Outcome (Option ChartFiles)} {done done' : Chart → ChartVersion → Prop}
  {c c' : Catalog}

/-- A pass starts with nothing done. -/
theorem start (wf : c.WellFormed) (same : c.getFiles = old) :
    FilesHold fetch repo charts old (fun _ _ => False) c :=
  ⟨wf, fun _ _ _ _ _ stored => .inl (same ▸ stored), fun _ _ _ _ none => none.elim⟩

theorem mono (holds : FilesHold fetch repo charts old done c)
    (fewer : ∀ chart version, done' chart version → done chart version) :
    FilesHold fetch repo charts old done' c :=
  ⟨holds.wellFormed, holds.kept,
    fun chart member version listed now => holds.filed chart member version listed (fewer _ _ now)⟩

/-- The invariant is carried by a write that keeps the chart files. -/
theorem of_filesKept (holds : FilesHold fetch repo charts old done c) (kept : c.FilesKept c') :
    FilesHold fetch repo charts old done c' := by
  obtain ⟨wf', same⟩ := kept holds.wellFormed
  refine ⟨wf', ?_, fun chart member version listed now => ?_⟩
  · rw [same]
    exact holds.kept
  · simp only [Filed, same]
    exact holds.filed chart member version listed now

/-- A version whose files exist for the repository, namespace and digest is filed. -/
theorem present (holds : FilesHold fetch repo charts old done c) {chart : Chart}
    {versions : List ChartVersion} :
    FilesHold fetch repo charts old (fun ch v => done ch v ∨ ch = chart ∧ v ∈ versions ∧
      c.filesExist (chartFilesId chart.id v.version) repo.name repo.ns v.digest = true) c := by
  refine ⟨holds.wellFormed, holds.kept, fun ch member v listed now => ?_⟩
  rcases now with before | ⟨rfl, -, found⟩
  · exact holds.filed ch member v listed before
  · exact (holds.wellFormed.filesExist_eq_true_iff _ _ _ _).1 found

/-- Writing the record downloaded for a version of the charts files it, when files ids are
apart: a version that shares its files id is a version of the same chart with the same
digest, so the record is downloaded for it too. -/
theorem insertFiles (apart : FilesIdsApart charts) (holds : FilesHold fetch repo charts old done c)
    {chart : Chart} {version : ChartVersion} {f : ChartFiles} (member : chart ∈ charts)
    (listed : version ∈ chart.versions) (downloaded : Downloaded fetch repo chart version f)
    {chartId : String} (written : c.insertFiles chartId f = .ok c') :
    FilesHold fetch repo charts old (fun ch v => done ch v ∨ ch = chart ∧ v = version) c' := by
  obtain ⟨named, ofRepo, digest⟩ := downloaded.record
  have reads := holds.wellFormed.getFiles_insertFiles written
  refine ⟨(Catalog.artifactsOnly_insertFiles written holds.wellFormed).1,
    fun ch chMember v vListed g stored => ?_, fun ch chMember v vListed now => ?_⟩
  · rw [reads] at stored
    split at stored
    · next same =>
      obtain ⟨rfl, sameDigest⟩ := apart ch chMember v vListed chart member version listed
        (same.trans named)
      cases stored
      exact .inr (downloaded.of_digest sameDigest (same.trans named))
    · exact holds.kept ch chMember v vListed g stored
  · simp only [Filed, reads]
    split
    · next same =>
      obtain ⟨-, sameDigest⟩ := apart ch chMember v vListed chart member version listed
        (same.trans named)
      exact ⟨f, rfl, by rw [ofRepo]; rfl, by rw [ofRepo]; rfl, digest.trans sameDigest.symm⟩
    · next other =>
      rcases now with before | ⟨rfl, rfl⟩
      · exact holds.filed ch chMember v vListed before
      · exact absurd named.symm other

/-- Once every version is done, every version is stored. -/
theorem stored (holds : FilesHold fetch repo charts old done c)
    (all : ∀ chart ∈ charts, ∀ version ∈ chart.versions, done chart version) :
    FilesStored fetch repo charts old c := by
  intro chart member version listed
  obtain ⟨f, read, name, ns, digest⟩ := holds.filed chart member version listed
    (all chart member version listed)
  exact ⟨f, read, name, ns, digest, holds.kept chart member version listed f read⟩

end FilesHold

/-- Stored chart files are read alike by catalogs that read the same chart files. -/
theorem FilesStored.of_getFiles_eq {fetch : Fetch} {repo : Repo} {charts : List Chart}
    {old : String → Outcome (Option ChartFiles)} {c c' : Catalog}
    (stored : FilesStored fetch repo charts old c) (same : c'.getFiles = c.getFiles) :
    FilesStored fetch repo charts old c' := by
  rw [FilesStored, same]
  exact stored

/-! ## What the jobs lead to -/

open Online

section Jobs

variable {fetch : Fetch} {repo : Repo} {charts : List Chart}
  {old : String → Outcome (Option ChartFiles)}

theorem leads_storeWrite {α : Type} {faults : StoreFaults} {op : CatalogOp}
    {write : Catalog → Outcome (α × Catalog)} {P E : Catalog → Prop} {Q : α → Catalog → Prop}
    (wrote : ∀ c a c', P c → write c = .ok (a, c') → Q a c') (failed : ∀ c, P c → E c) :
    Leads fetch P (storeWrite faults op write) Q E := by
  unfold storeWrite
  cases faults.fails op with
  | some e => exact leads_throw failed
  | none => exact leads_writing wrote failed

/-- Writing a record downloaded for a version files the version. -/
theorem leads_insertFiles (apart : FilesIdsApart charts) (faults : StoreFaults) {chart : Chart}
    {version : ChartVersion} {f : ChartFiles} (member : chart ∈ charts)
    (listed : version ∈ chart.versions) (downloaded : Downloaded fetch repo chart version f)
    (done : Chart → ChartVersion → Prop) :
    Leads fetch (FilesHold fetch repo charts old done) (insertFiles faults chart.id f)
      (fun _ => FilesHold fetch repo charts old fun ch v => done ch v ∨ ch = chart ∧ v = version)
      (FilesHold fetch repo charts old done) :=
  leads_storeWrite (fun _ _ _ holds written =>
    holds.insertFiles apart member listed downloaded (map_unit_eq_ok.1 written)) fun _ holds => holds

/-- Writing the records of the missing versions of a group, each downloaded for its version,
files each of them. -/
theorem leads_writeRecords (apart : FilesIdsApart charts) (faults : StoreFaults) {chart : Chart}
    (member : chart ∈ charts) {files : List (String × String)}
    {missing : List (String × ChartVersion)}
    (downloaded : ∀ x ∈ missing,
      x.2 ∈ chart.versions ∧ Downloaded fetch repo chart x.2 (filesRecord repo files x.1 x.2))
    (done : Chart → ChartVersion → Prop) :
    Leads fetch (FilesHold fetch repo charts old done)
      (missing.forM fun x => insertFiles faults chart.id (filesRecord repo files x.1 x.2))
      (fun _ => FilesHold fetch repo charts old fun ch v =>
        done ch v ∨ ch = chart ∧ ∃ filesId, (filesId, v) ∈ missing)
      (FilesHold fetch repo charts old done) := by
  -- the records written so far are filed, and a failed write leaves what was done before
  have loop := leads_forM (E := FilesHold fetch repo charts old done)
    (I := fun written => FilesHold fetch repo charts old fun ch v =>
      done ch v ∨ ch = chart ∧ ∃ filesId, (filesId, v) ∈ written)
    (f := fun x => insertFiles faults chart.id (filesRecord repo files x.1 x.2))
    fun written x (inMissing : x ∈ missing) => by
      obtain ⟨listed, downloadedHere⟩ := downloaded x inMissing
      refine (leads_insertFiles apart faults member listed downloadedHere _).conseq
        (fun _ holds => holds) ?post ?failed
      case post =>
        intro _ s holds
        refine holds.mono ?_
        rintro ch v (before | ⟨rfl, filesId, inWritten⟩)
        · exact .inl (.inl before)
        · rcases List.mem_append.1 inWritten with earlier | isNew
          · exact .inl (.inr ⟨rfl, filesId, earlier⟩)
          · obtain rfl := List.mem_singleton.1 isNew
            exact .inr ⟨rfl, rfl⟩
      case failed =>
        intro s holds
        exact holds.mono fun ch v before => .inl before
  refine loop.conseq (fun s holds => holds.mono ?_) (fun _ _ holds => holds) fun _ holds => holds
  rintro ch v (before | ⟨-, filesId, wrong⟩)
  · exact before
  · cases wrong

/-- A files job over versions of a chart that share one digest files all of them when it
comes through, and keeps the invariant when it fails. -/
theorem leads_importFilesUnder (apart : FilesIdsApart charts) (faults : StoreFaults) {chart : Chart}
    {versions : List ChartVersion} (member : chart ∈ charts)
    (within : ∀ v ∈ versions, v ∈ chart.versions)
    (alike : ∀ u ∈ versions, ∀ w ∈ versions, u.digest = w.digest) (done : Chart → ChartVersion → Prop) :
    Leads fetch (FilesHold fetch repo charts old done) (importFilesUnder faults repo chart versions)
      (fun _ => FilesHold fetch repo charts old fun ch v => done ch v ∨ ch = chart ∧ v ∈ versions)
      (FilesHold fetch repo charts old done) := by
  unfold importFilesUnder
  refine (leads_current (Q := fun c s => s = c ∧ FilesHold fetch repo charts old done s)
    fun s holds => ⟨rfl, holds⟩).bind fun c => ?_
  -- from here on, the versions whose files existed at the start count as done
  refine Leads.conseq (P := FilesHold fetch repo charts old fun ch v => done ch v ∨ ch = chart ∧
      v ∈ versions ∧ c.filesExist (chartFilesId chart.id v.version) repo.name repo.ns v.digest = true)
    (E := FilesHold fetch repo charts old fun ch v => done ch v ∨ ch = chart ∧
      v ∈ versions ∧ c.filesExist (chartFilesId chart.id v.version) repo.name repo.ns v.digest = true)
    ?inner ?pre (fun _ _ holds => holds) ?failed
  case pre =>
    intro s pre
    obtain ⟨rfl, holds⟩ := pre
    exact holds.present
  case failed =>
    intro s holds
    exact holds.mono fun _ _ before => .inl before
  dsimp only
  split
  · next nothingMissing =>
    refine leads_pure fun s holds => holds.mono ?_
    rintro ch v (before | ⟨rfl, listed⟩)
    · exact .inl before
    · rcases missing_or_filesExist listed with ⟨filesId, missing⟩ | found
      · rw [nothingMissing] at missing
        cases missing
      · exact .inr ⟨rfl, listed, found⟩
  · next filesId first rest firstMissing =>
    have firstListed : first ∈ versions :=
      (mem_missingFiles.1 (firstMissing ▸ List.mem_cons_self : (filesId, first) ∈ _)).1
    refine leads_ofOutcome_bind (fun url located => ?_) fun _ holds => holds
    refine leads_getChecked_bind (fun response answered => ?_) fun _ holds => holds
    refine leads_ofOutcome_bind (fun files extracted => ?_) fun _ holds => holds
    -- every missing version gets a record from the archive of the first one
    have downloaded : ∀ x ∈ missingFiles c repo chart versions, x.2 ∈ chart.versions ∧
        Downloaded fetch repo chart x.2 (filesRecord repo files x.1 x.2) := by
      intro x inMissing
      obtain ⟨listed, named, -⟩ := mem_missingFiles.1 inMissing
      refine ⟨within _ listed, first, within _ firstListed, alike _ firstListed _ listed, url, response,
        files, located, answered, extracted, by rw [named]⟩
    refine (leads_writeRecords apart faults member downloaded _).bind fun _ =>
      leads_pure fun s holds => holds.mono ?_
    rintro ch v (before | ⟨rfl, listed⟩)
    · exact .inl (.inl before)
    · rcases missing_or_filesExist listed with missing | found
      · exact .inr ⟨rfl, missing⟩
      · exact .inl (.inr ⟨rfl, listed, found⟩)

/-- The count of failed files jobs only grows. -/
theorem filesFailed_le_count (report : SyncReport) (result : JobResult) :
    report.filesFailed ≤ (report.count result).filesFailed := by
  cases result with
  | icon outcome =>
    cases outcome with
    | error e => exact Nat.le_refl _
    | ok icon => cases icon <;> exact Nat.le_refl _
  | files outcome =>
    cases outcome with
    | error e => exact Nat.le_succ _
    | ok counted => exact Nat.le_refl _

/-- A job never fails. When a files job is not counted as failed, the versions of its group
are filed; an icon job keeps the chart files as they were. -/
theorem leads_runJob (apart : FilesIdsApart charts) (faults : StoreFaults) {job : ArtifactJob}
    (valid : job ∈ artifactJobs charts) (report : SyncReport) (done : Chart → ChartVersion → Prop) :
    Leads fetch (FilesHold fetch repo charts old done) (runJob faults repo job)
      (fun result => FilesHold fetch repo charts old fun ch v => done ch v ∨
        (report.count result).filesFailed = report.filesFailed ∧
          ∃ group, job = .files ch group ∧ v ∈ group)
      fun _ => False := by
  cases job with
  | icon chart =>
    have kept : Leads fetch (FilesHold fetch repo charts old done) (importIconUnder faults repo chart)
        _ _ := Leads.of_keeps (keeps_importIconUnder Catalog.filesKept_updateIcon faults repo chart)
      fun _ _ holds kept => holds.of_filesKept kept
    -- an icon job files nothing new: it is no files job
    have noGroup : ∀ (result : JobResult) s, FilesHold fetch repo charts old done s →
        FilesHold fetch repo charts old (fun ch v => done ch v ∨
          (report.count result).filesFailed = report.filesFailed ∧
            ∃ group, ArtifactJob.icon chart = .files ch group ∧ v ∈ group) s := by
      intro result s holds
      refine holds.mono ?_
      rintro ch v (before | ⟨-, group, wrong, -⟩)
      · exact before
      · cases wrong
    exact leads_tryCatch (kept.bind fun _ => leads_pure (noGroup _)) fun _ => leads_pure (noGroup _)
  | files chart group =>
    obtain ⟨member, grouped⟩ := files_mem_artifactJobs.1 valid
    have within : ∀ v ∈ group, v ∈ chart.versions := fun v inGroup =>
      ((digestGroups_spec chart.versions).1 v).1 (List.mem_flatten.2 ⟨group, grouped, inGroup⟩)
    refine leads_tryCatch ((leads_importFilesUnder apart faults member within
      ((digestGroups_spec chart.versions).2 group grouped) done).bind fun _ =>
        leads_pure fun s holds => holds.mono ?imported) fun _ =>
          leads_pure fun s holds => holds.mono ?failed
    case imported =>
      rintro ch v (before | ⟨-, g, same, inGroup⟩)
      · exact .inl before
      · cases same
        exact .inr ⟨rfl, inGroup⟩
    case failed =>
      rintro ch v (before | ⟨counted, -⟩)
      · exact before
      · simp [SyncReport.count] at counted

/-- Jobs run one after another never fail. The count of failed files jobs only grows, and
while it stays as it was, the versions of every files job run are filed. -/
theorem leads_countJobs (apart : FilesIdsApart charts) (faults : StoreFaults)
    (jobs : List ArtifactJob) (valid : ∀ job ∈ jobs, job ∈ artifactJobs charts) (report : SyncReport)
    (done : Chart → ChartVersion → Prop) :
    Leads fetch (FilesHold fetch repo charts old done)
      (jobs.foldlM (fun report job => do pure (report.count (← runJob faults repo job))) report)
      (fun counted s => report.filesFailed ≤ counted.filesFailed ∧
        FilesHold fetch repo charts old (fun ch v => done ch v ∨
          counted.filesFailed = report.filesFailed ∧ ∃ group, .files ch group ∈ jobs ∧ v ∈ group) s)
      fun _ => False := by
  induction jobs generalizing report done with
  | nil =>
    refine leads_pure fun s holds => ⟨Nat.le_refl _, holds.mono ?_⟩
    rintro ch v (before | ⟨-, group, wrong, -⟩)
    · exact before
    · cases wrong
  | cons job rest ih =>
    rw [List.foldlM_cons]
    -- the rest of the jobs start from the first job's count and the versions it filed
    refine ((leads_runJob apart faults (valid job List.mem_cons_self) report done).bind fun result =>
      leads_pure (Q := fun (counted : SyncReport) s => report.filesFailed ≤ counted.filesFailed ∧
        FilesHold fetch repo charts old (fun ch v => done ch v ∨
          counted.filesFailed = report.filesFailed ∧ ∃ group, job = .files ch group ∧ v ∈ group) s)
        fun s holds => ⟨filesFailed_le_count report result, holds⟩).bind
      fun counted => Leads.assume fun grew => ?_
    refine (ih (fun job member => valid job (List.mem_cons_of_mem _ member)) counted _).conseq
      (fun _ holds => holds) (fun final s post => ⟨grew.trans post.1, post.2.mono ?_⟩) fun _ wrong => wrong
    rintro ch v (before | ⟨unchanged, group, inJobs, inGroup⟩)
    · exact .inl (.inl before)
    · have firstUnchanged : counted.filesFailed = report.filesFailed := by
        have := post.1
        omega
      rcases List.mem_cons.1 inJobs with first | later
      · exact .inl (.inr ⟨firstUnchanged, group, first.symm, inGroup⟩)
      · exact .inr ⟨by omega, group, later, inGroup⟩

/-- The artifact jobs of a pass never fail; when none of its files jobs failed, every
version of the charts is stored. -/
theorem leads_importArtifacts (apart : FilesIdsApart charts) (faults : StoreFaults) :
    Leads fetch (FilesHold fetch repo charts old fun _ _ => False) (importArtifacts faults repo charts)
      (fun report c => report.filesFailed = 0 → FilesStored fetch repo charts old c) fun _ => False :=
  (leads_countJobs apart faults (artifactJobs charts) (fun _ valid => valid) .zero _).conseq
    (fun _ holds => holds) (fun _ _ post complete => post.2.stored fun _ member _ listed =>
      .inr ⟨complete, exists_files_mem_artifactJobs member listed⟩) fun _ wrong => wrong

end Jobs

/-! ## What a pass leads to -/

section Passes

variable {fetch : Fetch} {repo : Repo}

/-- Downloading the index leaves the catalog and gives the body the repository answers. -/
theorem leads_fetchIndex {P : Catalog → Prop} :
    Leads fetch P (fetchIndex repo)
      (fun data s => (∃ url response, Repository.indexUrl repo.url = .ok url ∧
        ((fetch ⟨url, repo.authHeader⟩).bind fun r => r.checked url) = .ok response ∧
          response.body = data) ∧ P s) P := by
  unfold fetchIndex
  refine leads_ofOutcome_bind (fun url located => ?_) fun _ pre => pre
  refine leads_getChecked_bind (fun response answered => ?_) fun _ pre => pre
  exact leads_pure fun s pre => ⟨⟨url, response, located, answered, rfl⟩, pre⟩

/-- The writes of a pass once its charts are built: when they report no failed files job,
every version of the charts is stored. -/
theorem leads_syncTail {charts : List Chart} (apart : FilesIdsApart charts)
    (owned : ∀ chart ∈ charts, chart.repo = repo.reference ∧ chart.TimesValid)
    (faults : StoreFaults) (checksum : String) (now : Instant) (c₀ : Catalog) :
    Leads fetch (fun c => c = c₀ ∧ c.WellFormed) (do
        importCharts faults repo charts
        let removed ← removeMissing faults repo.name (charts.map Chart.id)
        let report ← importArtifacts faults repo charts
        updateLastCheck faults repo checksum now
        pure (SyncOutcome.synced { report with charts := charts.length, chartsRemoved := removed }) :
          Pass SyncOutcome)
      (fun outcome c => ∀ report, outcome = .synced report → report.filesFailed = 0 →
        FilesStored fetch repo charts c₀.getFiles c)
      fun _ => True := by
  refine (leads_storeWrite (Q := fun _ c => c₀.WellFormed ∧ c₀.importCharts repo charts = .ok c)
    (fun c _ c' pre written => ?imported) fun _ _ => trivial).bind fun _ => ?_
  case imported =>
    obtain ⟨rfl, wf⟩ := pre
    exact ⟨wf, map_unit_eq_ok.1 written⟩
  -- the import and the removal make the catalog's sync, which keeps the chart files
  refine (leads_storeWrite (Q := fun _ c => FilesHold fetch repo charts c₀.getFiles (fun _ _ => False) c)
    (fun c removed c' pre written => ?removed) fun _ _ => trivial).bind fun removed => ?_
  case removed =>
    obtain ⟨wf, imported⟩ := pre
    have synced : c₀.sync repo charts = .ok (removed, c') := by
      rw [← Except.ok.inj written]
      simp [Catalog.sync, imported]
    obtain ⟨_, _, synced', wf', -⟩ := wf.sync repo charts owned
    rw [synced] at synced'
    cases synced'
    exact FilesHold.start wf' (Catalog.getFiles_sync synced)
  refine ((leads_importArtifacts apart faults).conseq (fun _ holds => holds) (fun _ _ stored => stored)
    fun _ wrong => wrong.elim).bind fun counted => ?_
  refine (leads_storeWrite
    (Q := fun _ c => counted.filesFailed = 0 → FilesStored fetch repo charts c₀.getFiles c)
    (fun c _ c' stored written complete => (stored complete).of_getFiles_eq
      (Catalog.getFiles_updateLastCheck (map_unit_eq_ok.1 written))) fun _ _ => trivial).bind
    fun _ => leads_pure fun s stored report same complete => ?_
  cases same
  exact stored complete

/-- A pass from a well-formed catalog that reports a sync with no failed files job read the
index the repository answers, and leaves every version of the index's charts stored when
their files ids are apart. -/
theorem leads_syncRepoUnder (faults : StoreFaults) (options : SyncOptions) (now : Instant)
    (c₀ : Catalog) :
    Leads fetch (fun c => c = c₀ ∧ c.WellFormed) (syncRepoUnder faults options now repo)
      (fun outcome c => ∀ report, outcome = .synced report → report.filesFailed = 0 →
        ∃ url response index, Repository.indexUrl repo.url = .ok url ∧
          ((fetch ⟨url, repo.authHeader⟩).bind fun r => r.checked url) = .ok response ∧
          parseIndex response.body = .ok index ∧
          (FilesIdsApart (chartsFromIndex index repo) →
            FilesStored fetch repo (chartsFromIndex index repo) c₀.getFiles c))
      fun _ => True := by
  unfold syncRepoUnder
  have fetched : Leads fetch (fun c => c = c₀ ∧ c.WellFormed) (fetchIndex repo) _ _ :=
    leads_fetchIndex
  refine (fetched.conseq (fun _ pre => pre) (fun _ _ post => post) fun _ _ => trivial).bind
    fun data => Leads.assume fun answer => ?_
  obtain ⟨url, response, located, answered, rfl⟩ := answer
  dsimp only
  refine (leads_current (Q := fun _ s => s = c₀ ∧ s.WellFormed) fun _ pre => pre).bind fun c => ?_
  split
  · exact leads_pure fun _ _ report skipped => by cases skipped
  refine leads_ofOutcome_bind (fun index parsed => ?_) fun _ _ => trivial
  by_cases apart : FilesIdsApart (chartsFromIndex index repo)
  · refine Leads.conseq (Q := fun outcome c => ∀ report, outcome = .synced report →
        report.filesFailed = 0 → FilesStored fetch repo (chartsFromIndex index repo) c₀.getFiles c)
      (E := fun _ => True) ?stores (fun _ pre => pre) (fun _ _ stored report synced complete =>
        ⟨url, response, index, located, answered, parsed, fun _ => stored report synced complete⟩)
      fun _ _ => trivial
    -- the charts are stored unless an empty index would empty the repository
    have tail : Leads fetch _ _ _ _ := leads_syncTail apart
      (fun _ member => (chartsFromIndex_spec member).1) faults (indexChecksum response.body) now c₀
    split
    · refine (leads_reading (Q := fun _ s => s = c₀ ∧ s.WellFormed) (fun _ _ pre _ => pre)
        fun _ _ => trivial).bind fun stored => ?_
      split
      · exact (leads_throw (Q := fun _ _ => False) fun _ _ => trivial).bind fun _ => leads_absurd _
      · exact tail
    · exact tail
  · exact (leads_trivial _).conseq (fun _ _ => trivial)
      (fun _ _ _ report synced complete =>
        ⟨url, response, index, located, answered, parsed, fun isApart => absurd isApart apart⟩)
      fun _ _ => trivial

end Passes

/-! ## The requests of a files job -/

section Requests

variable (fetch : Fetch)

/-- Store writes send no request. -/
theorem requests_storeWrite {α : Type} (faults : StoreFaults) (op : CatalogOp)
    (write : Catalog → Outcome (α × Catalog)) (t : Traced Catalog) :
    ((storeWrite faults op write).exec fetch t).2.requests = t.requests := by
  rw [exec_storeWrite]
  split
  · rfl
  · rw [Online.exec_writing]
    split <;> rfl

/-- A files job sends one request, for the archive of the first version of its group whose
files are missing, and none when none is missing. -/
theorem importFilesUnder_requests (faults : StoreFaults) (repo : Repo) (chart : Chart)
    (versions : List ChartVersion) (t : Traced Catalog) :
    ((importFilesUnder faults repo chart versions).exec fetch t).2.requests.toList =
      t.requests.toList ++ (archiveRequest t.state repo chart versions).toList := by
  unfold importFilesUnder archiveRequest
  rw [catalog, Online.exec_bind, Online.exec_current]
  dsimp only
  split
  · next nothingMissing => simp [nothingMissing]
  · next filesId first rest firstMissing =>
    simp only [firstMissing]
    rw [Online.exec_bind, Online.exec_ofOutcome]
    cases Repository.archiveUrl repo.url first with
    | error e => simp [Except.toOption]
    | ok url =>
      dsimp only
      rw [Online.exec_bind, Online.exec_getChecked]
      cases (fetch ⟨url, repo.authHeader⟩).bind fun r => r.checked url with
      | error e => simp [Except.toOption]
      | ok response =>
        dsimp only
        rw [Online.exec_bind, Online.exec_ofOutcome]
        cases Tar.extract (Tar.chartMemberPaths chart.name) (Gzip.source response.body) with
        | error e => simp [Except.toOption]
        | ok files =>
          dsimp only
          -- the records are written by store writes, which send no request
          have quiet : ∀ s, ((((filesId, first) :: rest).forM fun x =>
              insertFiles faults chart.id (filesRecord repo files x.1 x.2)).exec fetch s).2.requests =
                s.requests :=
            fun s => Online.requests_forM fetch s (fun _ s => requests_storeWrite fetch faults _ _ s) _
          rw [Online.exec_bind]
          split <;> next written ran =>
            have sent : written.requests = t.requests.push ⟨url, repo.authHeader⟩ :=
              (congrArg (fun r => r.2.requests) ran).symm.trans (quiet _)
            simp [sent, Except.toOption]

/-- A files job whose versions all have their files stored for the repository, namespace and
digest requests no archive. -/
theorem archiveRequest_eq_none_of_stored {c : Catalog} {repo : Repo} {chart : Chart}
    {versions : List ChartVersion}
    (stored : ∀ v ∈ versions,
      c.filesExist (chartFilesId chart.id v.version) repo.name repo.ns v.digest = true) :
    archiveRequest c repo chart versions = none := by
  have nothingMissing : missingFiles c repo chart versions = [] := by
    rw [List.eq_nil_iff_forall_not_mem]
    intro x missing
    obtain ⟨filesId, v⟩ := x
    obtain ⟨listed, rfl, absent⟩ := mem_missingFiles.1 missing
    simp [stored v listed] at absent
  simp only [archiveRequest, nothingMissing]

end Requests

end Pass

/-! ## The chart files of a pass -/

/-- A pass from a well-formed catalog that reports a sync with no failed files job read the
index the repository answers. When no two versions of the index's charts share a files id
unless they are versions of one chart with one digest, every version of every chart of the
index has chart files under its files id, of the repository and namespace and with the
version's digest: the record stored before the pass, or one written in the pass from the
chart's members in the archive of a version of the same chart with that digest, fetched with
the repository's credentials. A files job requests the archive of the first version of its
group whose files are missing and nothing else, and requests nothing when the files of every
version of its group are stored. -/
theorem synced_files_belong_to_their_versions (fetch : Fetch) (t : Traced Catalog)
    (faults : StoreFaults) (options : SyncOptions) (now : Instant) (repo : Repo) (report : SyncReport)
    (wf : t.state.WellFormed)
    (synced : ((Pass.syncRepoUnder faults options now repo).exec fetch t).1 = .ok (.synced report))
    (complete : report.filesFailed = 0) :
    (∃ url response index, Repository.indexUrl repo.url = .ok url ∧
      ((fetch ⟨url, repo.authHeader⟩).bind fun r => r.checked url) = .ok response ∧
      parseIndex response.body = .ok index ∧
      (FilesIdsApart (chartsFromIndex index repo) →
        Pass.FilesStored fetch repo (chartsFromIndex index repo) t.state.getFiles
          ((Pass.syncRepoUnder faults options now repo).exec fetch t).2.state)) ∧
    (∀ (s : Traced Catalog) (chart : Chart) (versions : List ChartVersion),
      ((Pass.importFilesUnder faults repo chart versions).exec fetch s).2.requests.toList =
        s.requests.toList ++ (Pass.archiveRequest s.state repo chart versions).toList) ∧
    ∀ (c : Catalog) (chart : Chart) (versions : List ChartVersion),
      (∀ v ∈ versions,
        c.filesExist (chartFilesId chart.id v.version) repo.name repo.ns v.digest = true) →
      Pass.archiveRequest c repo chart versions = none :=
  ⟨(Pass.leads_syncRepoUnder faults options now t.state t ⟨rfl, wf⟩).1 _ synced report rfl complete,
    fun s chart versions => Pass.importFilesUnder_requests fetch faults repo chart versions s,
    fun _ _ _ stored => Pass.archiveRequest_eq_none_of_stored stored⟩

/-- A pass over an index of one chart whose only version has its files stored already. -/
theorem synced_files_belong_to_their_versions_already_stored :
    let repo : Repo := ⟨"test", "default", "http://r.test/charts", none⟩
    let body :=
      "apiVersion: v1\nentries:\n  nginx:\n  - name: nginx\n    version: \"1\"\n    digest: \"d\"\n".toUTF8
    let fetch : Fetch := fun request =>
      if request.url == "http://r.test/charts/index.yaml" then .ok ⟨200, none, body⟩
      else .error (.transport "connection refused")
    let stored : ChartFiles := ⟨"test/nginx-1", "", "", "", repo.reference, "d"⟩
    let t : Traced Catalog := ⟨.relational (RelationalCatalog.empty.insertFiles "test/nginx" stored), #[]⟩
    let report : SyncReport := ⟨1, 0, 0, 1, 0, 0, 0⟩
    t.state.WellFormed ∧
      ((Pass.syncRepoUnder .none ⟨0, false⟩ ⟨0, 0, 0⟩ repo).exec fetch t).1 = .ok (.synced report) ∧
      report.filesFailed = 0 ∧
      (∃ url response index, Repository.indexUrl repo.url = .ok url ∧
        ((fetch ⟨url, repo.authHeader⟩).bind fun r => r.checked url) = .ok response ∧
        parseIndex response.body = .ok index ∧
        (FilesIdsApart (chartsFromIndex index repo) →
          Pass.FilesStored fetch repo (chartsFromIndex index repo) t.state.getFiles
            ((Pass.syncRepoUnder .none ⟨0, false⟩ ⟨0, 0, 0⟩ repo).exec fetch t).2.state)) ∧
      (∀ (s : Traced Catalog) (chart : Chart) (versions : List ChartVersion),
        ((Pass.importFilesUnder .none repo chart versions).exec fetch s).2.requests.toList =
          s.requests.toList ++ (Pass.archiveRequest s.state repo chart versions).toList) ∧
      ∀ (c : Catalog) (chart : Chart) (versions : List ChartVersion),
        (∀ v ∈ versions,
          c.filesExist (chartFilesId chart.id v.version) repo.name repo.ns v.digest = true) →
        Pass.archiveRequest c repo chart versions = none := by
  intro repo body fetch stored t report
  have wf : t.state.WellFormed :=
    RelationalCatalog.WellFormed.insertFiles Catalog.WellFormed.emptyRelational "test/nginx" stored
  have synced : ((Pass.syncRepoUnder .none ⟨0, false⟩ ⟨0, 0, 0⟩ repo).exec fetch t).1 =
      .ok (.synced report) := by
    decide +kernel
  exact ⟨wf, synced, rfl,
    synced_files_belong_to_their_versions fetch t .none ⟨0, false⟩ ⟨0, 0, 0⟩ repo report wf synced rfl⟩

end ChartCatalog
