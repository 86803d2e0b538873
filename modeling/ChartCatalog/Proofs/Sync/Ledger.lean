import ChartCatalog.Proofs.Sync.Pass
import Mathlib.Data.List.Nodup

/-!
# Checkpoints that the catalog reflects

A run of the orchestrator is a sequence of passes over repositories and deletions of
repositories (`RunStep`). Its ledger records, for each repository, the index body of the
pass that wrote the repository's checkpoint (`Ledgered`). In every state of a run from an
empty catalog of either backend, a checkpoint written by a pass over an index body holds
that body's checksum, the repository lists that index's charts by id, but for their icons,
and every checkpoint of a repository of the run is one the ledger records
(`Ledgered.Holds`). So a pass that fails leaves the catalog as it was and is run again in
full, a pass that syncs leaves a catalog that reflects its index, and a pass is skipped
only over an index whose checksum is that of a body the catalog reflects
(`checkpoints_reflect_catalog`).

This holds when the chart ids of different repositories never meet (`NamesApart`) and
the store writes that complete a sync do not fail (`StoreFaults.SparesCompletion`). Chart
ids join the repository name and the chart name with `/`, so the chart `c` of the
repository `a/b` and the chart `b/c` of the repository `a` have one id: a pass over `a`
takes the chart from `a/b` (`Pass.SyncedTo.listCharts_other`, and
`sync_takes_over_nested_chart` for the catalog's own sync), whose checkpoint then stands
for a catalog it no longer reflects.
-/

set_option autoImplicit false

namespace ChartCatalog

open Http

/-! ## Charts of an index -/

/-- Every chart built from an index belongs to its repository, has valid instants, and has
an id of the repository's name. -/
theorem chartsFromIndex_spec {index : IndexFile} {repo : Repo} {chart : Chart}
    (member : chart ∈ chartsFromIndex index repo) :
    (chart.repo = repo.reference ∧ chart.TimesValid) ∧ ∃ name, chart.id = chartId repo.name name := by
  obtain ⟨⟨name, entries⟩, -, built⟩ := List.mem_filterMap.1 member
  simp only [newChart] at built
  split at built
  · cases built
  · rename_i live newest rest _
    cases built
    refine ⟨⟨rfl, fun version listed t created => ?_⟩, name, rfl⟩
    obtain ⟨entry, -, rfl⟩ := List.mem_map.1 listed
    simp only [IndexEntry.toVersion, Option.mem_def, Option.bind_eq_some_iff] at created
    obtain ⟨text, -, read⟩ := created
    exact Instant.parseStrict?_valid read

/-- Two repository names whose charts never share an id. -/
def NamesApart (a b : String) : Prop :=
  ∀ chartName otherName, chartId a chartName = chartId b otherName → a = b

/-! ## Listings without icons -/

theorem Chart.lastWithId_map_withoutIcon (charts : List Chart) (id : String) :
    Chart.lastWithId (charts.map Chart.withoutIcon) id =
      (Chart.lastWithId charts id).map Chart.withoutIcon := by
  simp only [Chart.lastWithId, ← List.map_reverse, List.find?_map]
  rfl

/-- A listing of charts by id stays one when the icons are left out on both sides. -/
theorem ListsById.map_withoutIcon {charts listing : List Chart} (lists : ListsById charts listing) :
    ListsById (charts.map Chart.withoutIcon) (listing.map Chart.withoutIcon) := by
  obtain ⟨ordered, members⟩ := lists
  refine ⟨List.pairwise_map.2 (ordered.imp fun lt => by simpa using lt), fun chart => ?_⟩
  rw [Chart.lastWithId_map_withoutIcon, List.mem_map, Option.map_eq_some_iff]
  constructor
  · rintro ⟨found, listed, rfl⟩
    exact ⟨found, (members found).1 listed, rfl⟩
  · rintro ⟨found, last, rfl⟩
    have sameId := (Chart.lastWithId_spec last).1
    rw [Chart.id_withoutIcon] at sameId
    exact ⟨found, (members found).2 (sameId ▸ last), rfl⟩

/-! ## A pass that syncs -/

/-- A catalog reflects an index body for a repository: its checkpoint holds the body's
checksum, and the repository lists the index's charts by id, but for their icons. -/
def Catalog.Reflects (c : Catalog) (repo : Repo) (data : ByteArray) : Prop :=
  c.alreadyProcessed repo.name (indexChecksum data) = true ∧
    ∃ index, parseIndex data = .ok index ∧ ∃ listed, c.listCharts repo.name = .ok listed ∧
      ListsById ((chartsFromIndex index repo).map Chart.withoutIcon) (listed.map Chart.withoutIcon)

namespace Pass.SyncedTo

variable {c c' : Catalog} {repo : Repo} {charts : List Chart} {checksum : String} {now : Instant}

/-- What a pass that synced a well-formed catalog leaves: a well-formed catalog, in which the
repository lists the charts by id but for their icons, every other repository whose charts
the pass did not take lists what it listed, and the checksum is recorded for the
repository alone. -/
theorem spec (synced : SyncedTo c c' repo charts checksum now) (wf : c.WellFormed)
    (valid : now.Valid) (owned : ∀ chart ∈ charts, chart.repo = repo.reference ∧ chart.TimesValid) :
    c'.WellFormed ∧
      (∃ listed, c'.listCharts repo.name = .ok listed ∧
        ListsById (charts.map Chart.withoutIcon) (listed.map Chart.withoutIcon)) ∧
      (∀ other, other ≠ repo.name →
        (∀ listing, c.listCharts other = .ok listing → ∀ chart ∈ charts, chart.id ∉ listing.map Chart.id) →
          (c'.listCharts other).map (List.map Chart.withoutIcon) =
            (c.listCharts other).map (List.map Chart.withoutIcon)) ∧
      ∀ name processed, c'.alreadyProcessed name processed =
        if name = repo.name then checksum == processed else c.alreadyProcessed name processed := by
  obtain ⟨removed, c₁, c₂, sync, artifacts, written⟩ := synced
  obtain ⟨removed', c₁', sync', wf₁, reconciled⟩ := wf.sync repo charts owned
  rw [sync] at sync'
  cases sync'
  obtain ⟨wf₂, lists₂, processed₂⟩ := artifacts wf₁
  obtain ⟨c'', written', wf', lists', processed'⟩ := wf₂.updateLastCheck repo checksum valid
  rw [written] at written'
  cases written'
  refine ⟨wf', ?_, fun other differs unclaimed => ?_, fun name processed => ?_⟩
  · -- the listing after the sync, with icons set by the jobs
    obtain ⟨after, listedAfter, lists⟩ := reconciled.listed
    have jobs := lists₂ repo.name
    rw [listedAfter] at jobs
    cases listedNow : c₂.listCharts repo.name with
    | error e =>
      rw [listedNow] at jobs
      cases jobs
    | ok listed =>
      rw [listedNow] at jobs
      have same : listed.map Chart.withoutIcon = after.map Chart.withoutIcon :=
        Except.ok.inj jobs
      exact ⟨listed, (lists' repo.name).trans listedNow, same ▸ lists.map_withoutIcon⟩
  · rw [lists' other, lists₂ other, reconciled.others other differs unclaimed]
  · rw [processed' name processed, processed₂ name processed,
      Catalog.alreadyProcessed_sync sync name processed]

/-- A pass that synced takes from every other repository the charts whose ids it imported,
and leaves the rest of its listing as it was, but for icons. -/
theorem listCharts_other (synced : SyncedTo c c' repo charts checksum now) (wf : c.WellFormed)
    (valid : now.Valid) (owned : ∀ chart ∈ charts, chart.repo = repo.reference ∧ chart.TimesValid)
    {other : String} (differs : other ≠ repo.name) :
    (c'.listCharts other).map (List.map Chart.withoutIcon) =
      (c.listCharts other).map fun listing =>
        (listing.filter fun chart => !(charts.map Chart.id).contains chart.id).map Chart.withoutIcon := by
  obtain ⟨removed, c₁, c₂, sync, artifacts, written⟩ := synced
  obtain ⟨removed', c₁', sync', wf₁, -⟩ := wf.sync repo charts owned
  rw [sync] at sync'
  cases sync'
  obtain ⟨wf₂, lists₂, -⟩ := artifacts wf₁
  obtain ⟨c'', written', -, lists', -⟩ := wf₂.updateLastCheck repo checksum valid
  rw [written] at written'
  cases written'
  rw [lists' other, lists₂ other, wf.listCharts_sync_other owned sync differs]
  cases c.listCharts other <;> rfl

/-- A pass that synced a well-formed catalog to the charts of an index leaves a catalog that
reflects the index's body. -/
theorem reflects {data : ByteArray} {index : IndexFile} (parsed : parseIndex data = .ok index)
    (synced : SyncedTo c c' repo (chartsFromIndex index repo) (indexChecksum data) now)
    (wf : c.WellFormed) (valid : now.Valid) : c'.Reflects repo data := by
  obtain ⟨-, ⟨listed, found, lists⟩, -, processed⟩ :=
    synced.spec wf valid fun chart member => (chartsFromIndex_spec member).1
  exact ⟨by simp [processed], index, parsed, listed, found, lists⟩

end Pass.SyncedTo

/-! ## Runs and their ledger -/

/-- One call of a run of the orchestrator: a pass over a repository, against the web as it
answers then and under a fault plan for the store writes, recording its checkpoint at an
instant; or the deletion of a repository. -/
inductive RunStep where
  | sync (fetch : Fetch) (faults : StoreFaults) (options : SyncOptions) (now : Instant) (repo : Repo)
  | delete (repoName : String)

/-- The calls of a run over a set of repositories: passes over its repositories at valid
instants, under fault plans that spare the completion of a sync, and deletions. -/
def RunStep.Allowed (repos : List Repo) : RunStep → Prop
  | .sync _ faults _ now repo => repo ∈ repos ∧ now.Valid ∧ faults.SparesCompletion
  | .delete _ => True

/-- Repositories that a run may sync together: each name belongs to one repository, and
the charts of two of them never share an id. -/
structure ReposApart (repos : List Repo) : Prop where
  sameNames : ∀ a ∈ repos, ∀ b ∈ repos, a.name = b.name → a = b
  apart : ∀ a ∈ repos, ∀ b ∈ repos, NamesApart a.name b.name

/-- A chart id gives back the name of its repository, as the text before its first `/`,
when that name holds no `/`. -/
theorem takeWhile_chartId {repoName : String} (free : '/' ∉ repoName.toList) (chartName : String) :
    (chartId repoName chartName).toList.takeWhile (· != '/') = repoName.toList := by
  rw [chartId, String.toList_append, String.toList_append, List.append_assoc,
    List.takeWhile_append_of_pos fun c member => bne_iff_ne.2 (ne_of_mem_of_not_mem member free)]
  simp

theorem namesApart_of_slash_free {a b : String} (freeA : '/' ∉ a.toList) (freeB : '/' ∉ b.toList) :
    NamesApart a b := by
  intro chartName otherName same
  have names := congrArg (fun id => id.toList.takeWhile (· != '/')) same
  simp only [takeWhile_chartId freeA, takeWhile_chartId freeB] at names
  exact String.toList_inj.1 names

/-- Repositories with distinct names, none of which holds a `/`, may be synced together. -/
theorem ReposApart.of_slash_free {repos : List Repo} (distinct : (repos.map Repo.name).Nodup)
    (free : ∀ repo ∈ repos, '/' ∉ repo.name.toList) : ReposApart repos :=
  ⟨fun _ first _ second same => List.inj_on_of_nodup_map distinct first second same,
    fun a first b second => namesApart_of_slash_free (free a first) (free b second)⟩

/-- A catalog, with the index body of the pass that wrote each repository's checkpoint. -/
structure Ledgered where
  catalog : Catalog
  writtenBy : String → Option ByteArray

namespace Ledgered

/-- A run from a catalog in which no checkpoint is written. -/
def start (c : Catalog) : Ledgered := ⟨c, fun _ => none⟩

/-- One call of a run: the catalog it leaves, and the ledger with the index body of a pass
that recorded its checkpoint, or without a deleted repository. -/
def step (s : Ledgered) : RunStep → Ledgered
  | .sync fetch faults options now repo =>
    let ran := (Pass.syncRepoUnder faults options now repo).run fetch s.catalog
    match ran.1, ((Pass.fetchIndex repo).run fetch s.catalog).1 with
    | .ok (.synced _), .ok data =>
      ⟨ran.2.state, fun name => if name = repo.name then some data else s.writtenBy name⟩
    | _, _ => ⟨ran.2.state, s.writtenBy⟩
  | .delete repoName =>
    ⟨s.catalog.deleteRepo repoName, fun name => if name = repoName then none else s.writtenBy name⟩

/-- The calls of a run one after another. -/
def run (s : Ledgered) (steps : List RunStep) : Ledgered := steps.foldl step s

/-- The invariant of a run over a set of repositories: the catalog is well formed, every
listed chart has an id of the repository that lists it, which is one of the run, every
checkpoint in the ledger is reflected by the catalog, and every checkpoint of a repository
of the run is one the ledger records. -/
structure Holds (repos : List Repo) (s : Ledgered) : Prop where
  wellFormed : s.catalog.WellFormed
  filed : ∀ name listed, s.catalog.listCharts name = .ok listed → ∀ chart ∈ listed,
    ∃ repo ∈ repos, repo.name = name ∧ ∃ chartName, chart.id = chartId name chartName
  reflects : ∀ repo ∈ repos, ∀ data, s.writtenBy repo.name = some data → s.catalog.Reflects repo data
  recorded : ∀ repo ∈ repos, ∀ checksum, s.catalog.alreadyProcessed repo.name checksum = true →
    ∃ data, s.writtenBy repo.name = some data ∧ indexChecksum data = checksum

/-! ## What one pass does to the ledger -/

/-- A pass of a run, under a fault plan that spares the completion of a sync, leaves the
catalog and the ledger as they were, or it synced the catalog to the charts of an index
whose body the ledger then records for the repository. -/
theorem step_sync_cases {fetch : Fetch} {faults : StoreFaults} (spared : faults.SparesCompletion)
    (options : SyncOptions) (now : Instant) (repo : Repo) (s : Ledgered) :
    s.step (.sync fetch faults options now repo) = s ∨
      ∃ data index, parseIndex data = .ok index ∧
        (s.step (.sync fetch faults options now repo)).writtenBy =
          (fun name => if name = repo.name then some data else s.writtenBy name) ∧
        Pass.SyncedTo s.catalog (s.step (.sync fetch faults options now repo)).catalog repo
          (chartsFromIndex index repo) (indexChecksum data) now := by
  have cases := Pass.syncRepoUnder_cases fetch ⟨s.catalog, #[]⟩ spared options now repo
  -- unfolding through the definition: its match equations would reduce the whole pass
  unfold Ledgered.step
  simp only [Online.run_eq_exec]
  generalize (Pass.syncRepoUnder faults options now repo).exec fetch ⟨s.catalog, #[]⟩ = ran at cases ⊢
  generalize ((Pass.fetchIndex repo).exec fetch ⟨s.catalog, #[]⟩).1 = fetched at cases ⊢
  obtain ⟨result, after⟩ := ran
  dsimp only at cases ⊢
  rcases cases with ⟨same, e, rfl⟩ | ⟨same, rfl, -⟩ | ⟨data, index, report, rfl, parsed, rfl, synced⟩
  · -- a pass that fails records nothing
    rw [same]
    exact .inl rfl
  · -- a pass that skips records nothing either
    rw [same]
    exact .inl rfl
  · exact .inr ⟨data, index, parsed, rfl, synced⟩

variable {fetch : Fetch} {faults : StoreFaults} {options : SyncOptions} {now : Instant} {repo : Repo}

/-- A pass records nothing for another repository. -/
theorem writtenBy_step_sync_of_ne (s : Ledgered) {name : String} (other : name ≠ repo.name) :
    (s.step (.sync fetch faults options now repo)).writtenBy name = s.writtenBy name := by
  unfold Ledgered.step
  simp only [Online.run_eq_exec]
  generalize (Pass.syncRepoUnder faults options now repo).exec fetch ⟨s.catalog, #[]⟩ = ran
  generalize ((Pass.fetchIndex repo).exec fetch ⟨s.catalog, #[]⟩).1 = fetched
  obtain ⟨result, after⟩ := ran
  dsimp only
  split
  · exact if_neg other
  · rfl

/-- A pass leaves the catalog as the pass leaves it, whatever it comes to. -/
theorem step_sync_catalog (s : Ledgered) :
    (s.step (.sync fetch faults options now repo)).catalog =
      ((Pass.syncRepoUnder faults options now repo).run fetch s.catalog).2.state := by
  unfold Ledgered.step
  simp only [Online.run_eq_exec]
  generalize (Pass.syncRepoUnder faults options now repo).exec fetch ⟨s.catalog, #[]⟩ = ran
  generalize ((Pass.fetchIndex repo).exec fetch ⟨s.catalog, #[]⟩).1 = fetched
  obtain ⟨result, after⟩ := ran
  dsimp only
  split <;> rfl

/-- A deletion keeps what the ledger records for every other repository. -/
theorem writtenBy_step_delete_of_ne (s : Ledgered) {repoName name : String} (other : name ≠ repoName) :
    (s.step (.delete repoName)).writtenBy name = s.writtenBy name :=
  if_neg other

/-- A deletion drops the repository from the ledger. -/
theorem writtenBy_step_delete_self (s : Ledgered) (repoName : String) :
    (s.step (.delete repoName)).writtenBy repoName = none :=
  if_pos rfl

/-- A pass that syncs records for its repository the index body it downloaded. -/
theorem writtenBy_step_synced (s : Ledgered) {report : SyncReport} {data : ByteArray}
    (synced : ((Pass.syncRepoUnder faults options now repo).run fetch s.catalog).1 = .ok (.synced report))
    (fetched : ((Pass.fetchIndex repo).run fetch s.catalog).1 = .ok data) :
    (s.step (.sync fetch faults options now repo)).writtenBy repo.name = some data := by
  unfold Ledgered.step
  dsimp only
  rw [synced, fetched]
  exact if_pos rfl

/-! ## One call keeps the invariant -/

/-- Listings that agree but for icons: each chart of one has the id of a chart of the
other. -/
theorem exists_id_of_map_eq {listed listed' : List Chart}
    (same : listed'.map Chart.withoutIcon = listed.map Chart.withoutIcon) {chart : Chart}
    (member : chart ∈ listed') : ∃ other ∈ listed, other.id = chart.id := by
  have mapped : chart.withoutIcon ∈ listed.map Chart.withoutIcon :=
    same ▸ List.mem_map_of_mem member
  obtain ⟨other, listedOther, stripped⟩ := List.mem_map.1 mapped
  exact ⟨other, listedOther, by rw [← Chart.id_withoutIcon other, stripped, Chart.id_withoutIcon]⟩

/-- A catalog whose answer agrees but for icons with a listing gives one. -/
theorem exists_listed_of_map_eq {c c' : Catalog} {name : String}
    (same : (c'.listCharts name).map (List.map Chart.withoutIcon) =
      (c.listCharts name).map (List.map Chart.withoutIcon))
    {listed : List Chart} (found : c.listCharts name = .ok listed) :
    ∃ listed', c'.listCharts name = .ok listed' ∧
      listed'.map Chart.withoutIcon = listed.map Chart.withoutIcon := by
  rw [found] at same
  cases answer : c'.listCharts name with
  | error e =>
    rw [answer] at same
    cases same
  | ok listed' =>
    rw [answer] at same
    exact ⟨listed', rfl, Except.ok.inj same⟩

/-- A repository stays reflected when its checkpoint stays and its listing agrees but for
icons. -/
theorem Catalog.Reflects.of_same {c c' : Catalog} {repo : Repo} {data : ByteArray}
    (reflects : c.Reflects repo data)
    (processed : c'.alreadyProcessed repo.name (indexChecksum data) =
      c.alreadyProcessed repo.name (indexChecksum data))
    (same : (c'.listCharts repo.name).map (List.map Chart.withoutIcon) =
      (c.listCharts repo.name).map (List.map Chart.withoutIcon)) :
    c'.Reflects repo data := by
  obtain ⟨checked, index, parsed, listed, found, lists⟩ := reflects
  obtain ⟨listed', found', stripped⟩ := exists_listed_of_map_eq same found
  exact ⟨processed.trans checked, index, parsed, listed', found', stripped ▸ lists⟩

variable {repos : List Repo} {s : Ledgered}

/-- A run starts from an empty catalog of either backend, which lists no chart and has no
checkpoint, with nothing in the ledger. -/
theorem Holds.start {c : Catalog} (fresh : c = .emptyRelational ∨ c = .emptyDocuments) :
    Holds repos (start c) := by
  have empty : c.WellFormed ∧ (∀ name, c.listCharts name = .ok []) ∧
      ∀ name checksum, c.alreadyProcessed name checksum = false := by
    rcases fresh with rfl | rfl
    · exact ⟨Catalog.WellFormed.emptyRelational, fun _ => rfl, fun _ _ => rfl⟩
    · refine ⟨Catalog.WellFormed.emptyDocuments, fun name => Mirrors.empty.listCharts name,
        fun name checksum => ?_⟩
      exact Mirrors.empty.alreadyProcessed name checksum
  obtain ⟨wf, unlisted, unprocessed⟩ := empty
  refine ⟨wf, fun name listed found chart member => ?_, fun _ _ _ written => ?_,
    fun repo _ checksum processed => ?_⟩
  · change c.listCharts name = .ok listed at found
    rw [unlisted name] at found
    cases found
    cases member
  · cases written
  · change c.alreadyProcessed repo.name checksum = true at processed
    rw [unprocessed] at processed
    cases processed

/-- In a run over repositories whose names are apart, the charts of a pass over one of them
have no id of a chart another repository lists. -/
theorem Holds.unclaimed (holds : Holds repos s) (apart : ReposApart repos) {repo : Repo}
    (member : repo ∈ repos) {charts : List Chart}
    (named : ∀ chart ∈ charts, ∃ chartName, chart.id = chartId repo.name chartName)
    {other : String} (differs : other ≠ repo.name) :
    ∀ listing, s.catalog.listCharts other = .ok listing →
      ∀ chart ∈ charts, chart.id ∉ listing.map Chart.id := by
  intro listing found chart synced listedId
  obtain ⟨listedChart, listedMember, sameId⟩ := List.mem_map.1 listedId
  obtain ⟨owner, ownerMember, ownerName, otherName, listedIdEq⟩ :=
    holds.filed other listing found listedChart listedMember
  obtain ⟨chartName, chartIdEq⟩ := named chart synced
  -- both ids join a repository name with a chart name, so the names are one
  have joined : chartId repo.name chartName = chartId owner.name otherName := by
    rw [← chartIdEq, ← sameId, listedIdEq, ownerName]
  exact differs (ownerName ▸ (apart.apart repo member owner ownerMember chartName otherName joined).symm)

/-- A pass that synced a repository to an index keeps the invariant, with the index body
written into the ledger. -/
theorem Holds.synced (holds : Holds repos s) (apart : ReposApart repos) {repo : Repo}
    (member : repo ∈ repos) {now : Instant} (valid : now.Valid) {data : ByteArray}
    {index : IndexFile} (parsed : parseIndex data = .ok index) {s' : Ledgered}
    (written : s'.writtenBy = fun name => if name = repo.name then some data else s.writtenBy name)
    (synced : Pass.SyncedTo s.catalog s'.catalog repo (chartsFromIndex index repo) (indexChecksum data) now) :
    Holds repos s' := by
  have built := fun chart (listed : chart ∈ chartsFromIndex index repo) => chartsFromIndex_spec listed
  obtain ⟨wf', ⟨listed, found, lists⟩, others, processed⟩ :=
    synced.spec holds.wellFormed valid fun chart listed => (built chart listed).1
  have unclaimed := fun other (differs : other ≠ repo.name) =>
    holds.unclaimed apart member (fun chart listed => (built chart listed).2) differs
  refine ⟨wf', fun name listed' found' chart chartMember => ?_,
    fun other otherMember data' writtenOther => ?_, fun other otherMember checksum processedNow => ?_⟩
  · by_cases here : name = repo.name
    · -- the repository lists charts of the index, whose ids are of its name
      subst here
      rw [found] at found'
      cases found'
      have stripped := List.mem_map_of_mem (f := Chart.withoutIcon) chartMember
      rw [lists.2] at stripped
      obtain ⟨-, inIndex⟩ := Chart.lastWithId_spec stripped
      obtain ⟨original, originalMember, sameChart⟩ := List.mem_map.1 inIndex
      obtain ⟨chartName, idEq⟩ := (built original originalMember).2
      refine ⟨repo, member, rfl, chartName, ?_⟩
      rw [← Chart.id_withoutIcon chart, ← sameChart, Chart.id_withoutIcon, idEq]
    · -- another repository lists what it listed, but for icons
      obtain ⟨before, foundBefore, same⟩ :=
        exists_listed_of_map_eq (others name here (unclaimed name here)).symm found'
      obtain ⟨original, originalMember, sameId⟩ := exists_id_of_map_eq same.symm chartMember
      obtain ⟨owner, ownerMember, ownerName, chartName, idEq⟩ :=
        holds.filed name before foundBefore original originalMember
      exact ⟨owner, ownerMember, ownerName, chartName, sameId ▸ idEq⟩
  · rw [written] at writtenOther
    by_cases here : other.name = repo.name
    · -- the ledger names this pass's index for the repository
      have sameRepo := apart.sameNames other otherMember repo member here
      subst sameRepo
      have sameData : data = data' := by simpa using writtenOther
      subst sameData
      exact synced.reflects parsed holds.wellFormed valid
    · simp only [here, if_false] at writtenOther
      refine Catalog.Reflects.of_same (holds.reflects other otherMember data' writtenOther) ?_ ?_
      · rw [processed, if_neg here]
      · exact others other.name here (unclaimed other.name here)
  · rw [written]
    rw [processed] at processedNow
    by_cases here : other.name = repo.name
    · -- the checkpoint the pass recorded is the ledger's new entry
      rw [if_pos here, beq_iff_eq] at processedNow
      exact ⟨data, if_pos here, processedNow⟩
    · rw [if_neg here] at processedNow
      simp only [if_neg here]
      exact holds.recorded other otherMember checksum processedNow

/-- Deleting a repository keeps the invariant, with the repository out of the ledger. -/
theorem Holds.deleted (holds : Holds repos s) (repoName : String) :
    Holds repos ⟨s.catalog.deleteRepo repoName,
      fun name => if name = repoName then none else s.writtenBy name⟩ := by
  obtain ⟨wf', deleted⟩ := holds.wellFormed.deleteRepo repoName
  have processed := holds.wellFormed.alreadyProcessed_deleteRepo repoName
  refine ⟨wf', fun name listed found chart member => ?_, fun other otherMember data written => ?_,
    fun other otherMember checksum processedNow => ?_⟩
  · rw [deleted.charts name] at found
    split at found
    · cases found
      cases member
    · exact holds.filed name listed found chart member
  · by_cases here : other.name = repoName
    · simp [here] at written
    · simp only [here, if_false] at written
      refine Catalog.Reflects.of_same (holds.reflects other otherMember data written) ?_ ?_
      · simp only [processed, if_neg here]
      · rw [deleted.charts other.name, if_neg here]
  · rw [processed] at processedNow
    by_cases here : other.name = repoName
    · simp [here] at processedNow
    · simp only [here, if_false] at processedNow ⊢
      exact holds.recorded other otherMember checksum processedNow

/-- Every call of a run keeps the invariant. -/
theorem Holds.step (holds : Holds repos s) (apart : ReposApart repos) {call : RunStep}
    (allowed : call.Allowed repos) : Holds repos (s.step call) := by
  cases call with
  | delete repoName => exact holds.deleted repoName
  | sync fetch faults options now repo =>
    obtain ⟨member, valid, spared⟩ := allowed
    rcases step_sync_cases spared options now repo s with same | ⟨data, index, parsed, written, synced⟩
    · rw [same]
      exact holds
    · exact holds.synced apart member valid parsed written synced

/-- A run keeps the invariant: by induction on its calls, from whatever state it starts. -/
theorem Holds.run (holds : Holds repos s) (apart : ReposApart repos) {steps : List RunStep}
    (allowed : ∀ call ∈ steps, call.Allowed repos) : Holds repos (s.run steps) := by
  induction steps generalizing s with
  | nil => exact holds
  | cons call rest ih =>
    have first := holds.step apart (allowed call List.mem_cons_self)
    exact ih first fun next member => allowed next (List.mem_cons_of_mem _ member)

/-! ## A pass in a state of a run -/

/-- What a pass over a repository of the run does in a state where the invariant holds,
under a fault plan that spares the completion of a sync: a pass that fails leaves the
catalog as it was; a pass that skips leaves it as it was, over an index with the checksum
of a body in the ledger, which the catalog reflects; and a pass that syncs leaves a catalog
that reflects the index it downloaded. -/
theorem Holds.pass (holds : Holds repos s) {fetch : Fetch} {faults : StoreFaults}
    (spared : faults.SparesCompletion) (options : SyncOptions) {now : Instant} (valid : now.Valid)
    {repo : Repo} (member : repo ∈ repos) :
    let ran := (Pass.syncRepoUnder faults options now repo).run fetch s.catalog
    let fetched := ((Pass.fetchIndex repo).run fetch s.catalog).1
    ((∃ e, ran.1 = .error e) → ran.2.state = s.catalog) ∧
      (ran.1 = .ok .skipped → ran.2.state = s.catalog ∧ ∃ data recorded, fetched = .ok data ∧
        s.writtenBy repo.name = some recorded ∧ indexChecksum recorded = indexChecksum data ∧
        s.catalog.Reflects repo recorded) ∧
      ∀ report, ran.1 = .ok (.synced report) → ∃ data, fetched = .ok data ∧ ran.2.state.Reflects repo data := by
  have cases := Pass.syncRepoUnder_cases fetch ⟨s.catalog, #[]⟩ spared options now repo
  simp only [Online.run_eq_exec]
  generalize (Pass.syncRepoUnder faults options now repo).exec fetch ⟨s.catalog, #[]⟩ = ran at cases ⊢
  generalize ((Pass.fetchIndex repo).exec fetch ⟨s.catalog, #[]⟩).1 = fetched at cases ⊢
  obtain ⟨result, after⟩ := ran
  dsimp only at cases ⊢
  rcases cases with ⟨same, e, rfl⟩ | ⟨same, rfl, data, rfl, processed⟩ |
    ⟨data, index, report, rfl, parsed, rfl, synced⟩
  · exact ⟨fun _ => same, nofun, nofun⟩
  · -- the checkpoint has the downloaded checksum, so the ledger records a body of it
    obtain ⟨recorded, written, checksum⟩ := holds.recorded repo member _ processed
    exact ⟨(fun ⟨_, failed⟩ => nomatch failed), fun _ => ⟨same, data, recorded, rfl, written, checksum,
      holds.reflects repo member recorded written⟩, nofun⟩
  · exact ⟨(fun ⟨_, failed⟩ => nomatch failed), nofun,
      fun _ _ => ⟨data, rfl, synced.reflects parsed holds.wellFormed valid⟩⟩

end Ledgered

/-- In every state of a run from an empty catalog of either backend, over repositories
whose chart ids never meet and under fault plans that spare the completion of a sync, the
checkpoint a pass wrote for a repository holds its index body's checksum and the
repository lists that index's charts by id, but for their icons; and a further pass over a
repository of the run that fails leaves the catalog as it was, one that skips does so only
over the checksum of a body the catalog reflects, and one that syncs leaves a catalog that
reflects the index it downloaded. -/
theorem checkpoints_reflect_catalog (repos : List Repo) (apart : ReposApart repos) (c : Catalog)
    (fresh : c = .emptyRelational ∨ c = .emptyDocuments) (steps : List RunStep)
    (allowed : ∀ call ∈ steps, call.Allowed repos) :
    let s := (Ledgered.start c).run steps
    (∀ repo ∈ repos, ∀ data, s.writtenBy repo.name = some data → s.catalog.Reflects repo data) ∧
      ∀ fetch faults options now, faults.SparesCompletion → now.Valid → ∀ repo ∈ repos,
        let ran := (Pass.syncRepoUnder faults options now repo).run fetch s.catalog
        let fetched := ((Pass.fetchIndex repo).run fetch s.catalog).1
        ((∃ e, ran.1 = .error e) → ran.2.state = s.catalog) ∧
          (ran.1 = .ok .skipped → ran.2.state = s.catalog ∧ ∃ data recorded, fetched = .ok data ∧
            s.writtenBy repo.name = some recorded ∧ indexChecksum recorded = indexChecksum data ∧
            s.catalog.Reflects repo recorded) ∧
          ∀ report, ran.1 = .ok (.synced report) →
            ∃ data, fetched = .ok data ∧ ran.2.state.Reflects repo data := by
  intro s
  have holds : Ledgered.Holds repos s := (Ledgered.Holds.start fresh).run apart allowed
  exact ⟨holds.reflects, fun fetch faults options now spared valid repo member =>
    holds.pass spared options valid member⟩

/-- A run over two repositories whose names hold no `/`, against a web that answers both
indexes: a pass over each and the deletion of the second. The first pass syncs, and the
ledger keeps its index body through the pass over the other repository and its deletion. -/
theorem checkpoints_reflect_catalog_two_repositories :
    let first : Repo := ⟨"a", "default", "http://a.test/charts", none⟩
    let second : Repo := ⟨"b", "default", "http://b.test/charts", none⟩
    let firstIndex := "entries:\n  c:\n  - version: 1\n".toUTF8
    let secondIndex := "entries:\n  d:\n  - version: 2\n".toUTF8
    let web : Fetch := fun request =>
      if request.url == "http://a.test/charts/index.yaml" then .ok ⟨200, none, firstIndex⟩
      else if request.url == "http://b.test/charts/index.yaml" then .ok ⟨200, none, secondIndex⟩
      else .error (.transport "connection refused")
    let steps := [RunStep.sync web .none ⟨1, false⟩ ⟨0, 0, 0⟩ first,
      .sync web .none ⟨1, false⟩ ⟨0, 0, 0⟩ second, .delete second.name]
    ReposApart [first, second] ∧ (Catalog.emptyRelational = .emptyRelational ∨
        Catalog.emptyRelational = .emptyDocuments) ∧ (∀ call ∈ steps, call.Allowed [first, second]) ∧
      let s := (Ledgered.start .emptyRelational).run steps
      s.writtenBy first.name = some firstIndex ∧ s.writtenBy second.name = none ∧
      (∀ repo ∈ [first, second], ∀ data, s.writtenBy repo.name = some data →
          s.catalog.Reflects repo data) ∧
        ∀ fetch faults options now, faults.SparesCompletion → now.Valid → ∀ repo ∈ [first, second],
          let ran := (Pass.syncRepoUnder faults options now repo).run fetch s.catalog
          let fetched := ((Pass.fetchIndex repo).run fetch s.catalog).1
          ((∃ e, ran.1 = .error e) → ran.2.state = s.catalog) ∧
            (ran.1 = .ok .skipped → ran.2.state = s.catalog ∧ ∃ data recorded, fetched = .ok data ∧
              s.writtenBy repo.name = some recorded ∧ indexChecksum recorded = indexChecksum data ∧
              s.catalog.Reflects repo recorded) ∧
            ∀ report, ran.1 = .ok (.synced report) →
              ∃ data, fetched = .ok data ∧ ran.2.state.Reflects repo data := by
  intro first second firstIndex secondIndex web steps
  have apart : ReposApart [first, second] := ReposApart.of_slash_free (by decide) (by decide)
  have valid : (⟨0, 0, 0⟩ : Instant).Valid := ⟨by decide, by decide, by decide, by decide, by decide⟩
  have allowed : ∀ call ∈ steps, call.Allowed [first, second] := by
    intro call member
    simp only [steps, List.mem_cons, List.not_mem_nil, or_false] at member
    rcases member with rfl | rfl | rfl
    · exact ⟨List.mem_cons_self, valid, StoreFaults.sparesCompletion_none⟩
    · exact ⟨List.mem_cons_of_mem _ List.mem_cons_self, valid, StoreFaults.sparesCompletion_none⟩
    · trivial
  -- the first pass syncs and records its index body, which the second pass and the
  -- deletion, over the other repository, leave in the ledger
  have synced : ((Pass.syncRepoUnder .none ⟨1, false⟩ ⟨0, 0, 0⟩ first).run web
      (Ledgered.start .emptyRelational).catalog).1 = .ok (.synced ⟨1, 0, 0, 0, 1, 0, 0⟩) := by
    decide +kernel
  have fetched : ((Pass.fetchIndex first).run web (Ledgered.start .emptyRelational).catalog).1 =
      .ok firstIndex := by
    decide +kernel
  have afterFirst : ((Ledgered.start .emptyRelational).step
      (.sync web .none ⟨1, false⟩ ⟨0, 0, 0⟩ first)).writtenBy first.name = some firstIndex :=
    Ledgered.writtenBy_step_synced (Ledgered.start .emptyRelational) synced fetched
  have afterSecond : (((Ledgered.start .emptyRelational).step
      (.sync web .none ⟨1, false⟩ ⟨0, 0, 0⟩ first)).step
        (.sync web .none ⟨1, false⟩ ⟨0, 0, 0⟩ second)).writtenBy first.name = some firstIndex := by
    rw [Ledgered.writtenBy_step_sync_of_ne _ (by decide)]
    exact afterFirst
  have unfolded : (Ledgered.start .emptyRelational).run steps =
      (((Ledgered.start .emptyRelational).step (.sync web .none ⟨1, false⟩ ⟨0, 0, 0⟩ first)).step
        (.sync web .none ⟨1, false⟩ ⟨0, 0, 0⟩ second)).step (.delete second.name) := by
    simp only [steps, Ledgered.run, List.foldl_cons, List.foldl_nil]
  have recorded : ((Ledgered.start .emptyRelational).run steps).writtenBy first.name =
      some firstIndex := by
    rw [unfolded, Ledgered.writtenBy_step_delete_of_ne _ (by decide)]
    exact afterSecond
  have cleared : ((Ledgered.start .emptyRelational).run steps).writtenBy second.name = none := by
    rw [unfolded]
    exact Ledgered.writtenBy_step_delete_self _ _
  exact ⟨apart, .inl rfl, allowed, recorded, cleared,
    checkpoints_reflect_catalog [first, second] apart _ (.inl rfl) steps allowed⟩

end ChartCatalog
