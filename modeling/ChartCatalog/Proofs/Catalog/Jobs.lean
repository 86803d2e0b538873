import ChartCatalog.Catalog.Jobs

/-!
# How the artifact jobs split the work

`artifactJobs` runs every icon job first, then the files job of each chart's newest
version, then the older files jobs. A files job downloads one archive for all the versions
that share its digest, so the files jobs of a chart are its digest groups (`digestGroups`).

What the grouping is can be said without the fold that builds it (`DigestPartition`):

* the groups hold every version of the chart once;
* each group keeps the order the versions have in the chart;
* the versions of a group share one non-empty digest, or the group is a single version
  without a digest;
* no two groups share a non-empty digest;
* the groups come in the order in which their first versions occur, and the first group
  starts with the chart's first version.

Adding a version to the groups of the versions before it keeps all of this
(`DigestPartition.addToGroups`), so the groups of every list of versions have it
(`digestPartition_digestGroups`). With the order of the jobs this gives
`artifact_jobs_partition_versions_in_order`.
-/

set_option autoImplicit false

namespace ChartCatalog

/-! ## What the grouping promises -/

/-- The versions of one files job: some versions sharing one non-empty digest, or a single
version without a digest. -/
def DigestGroup (g : List ChartVersion) : Prop :=
  (∃ d, d ≠ "" ∧ g ≠ [] ∧ ∀ v ∈ g, v.digest = d) ∨ ∃ v, g = [v] ∧ v.digest = ""

/-- Two groups share no non-empty digest. -/
def DigestsApart (g h : List ChartVersion) : Prop :=
  ∀ u ∈ g, ∀ w ∈ h, u.digest = w.digest → u.digest = ""

/-- How the versions of a chart are split into files jobs. -/
structure DigestPartition (versions : List ChartVersion) (groups : List (List ChartVersion)) :
    Prop where
  /-- Every version is in exactly one group. -/
  perm : groups.flatten.Perm versions
  /-- A group keeps the order its versions have among the chart's versions. -/
  sublist : ∀ g ∈ groups, g.Sublist versions
  shape : ∀ g ∈ groups, DigestGroup g
  apart : groups.Pairwise DigestsApart
  /-- The groups come in the order in which their first versions occur. -/
  firstSeen : (groups.filterMap List.head?).Sublist versions
  /-- The first group starts with the chart's first version. -/
  first : groups.head?.bind List.head? = versions.head?

namespace DigestGroup

variable {g : List ChartVersion}

theorem ne_nil (shape : DigestGroup g) : g ≠ [] := by
  rcases shape with ⟨-, -, nonempty, -⟩ | ⟨v, rfl, -⟩
  · exact nonempty
  · exact List.cons_ne_nil v []

/-- Every version of a group has the digest of the group's first version. -/
theorem digest_eq_first (shape : DigestGroup g) {first : ChartVersion} (head : g.head? = some first) :
    ∀ v ∈ g, v.digest = first.digest := by
  have firstIn : first ∈ g := List.mem_of_mem_head? head
  rcases shape with ⟨d, -, -, alike⟩ | ⟨u, rfl, -⟩
  · intro v member
    rw [alike v member, alike first firstIn]
  · intro v member
    rw [List.mem_singleton.1 member, List.mem_singleton.1 firstIn]

theorem singleton (v : ChartVersion) : DigestGroup [v] := by
  by_cases blank : v.digest = ""
  · exact .inr ⟨v, rfl, blank⟩
  · exact .inl ⟨v.digest, blank, List.cons_ne_nil v [], fun u member => by
      rw [List.mem_singleton.1 member]⟩

/-- A version with a non-empty digest joins a group whose first version has that digest. -/
theorem append (shape : DigestGroup g) {first v : ChartVersion} (head : g.head? = some first)
    (same : first.digest = v.digest) (filled : v.digest ≠ "") : DigestGroup (g ++ [v]) := by
  refine .inl ⟨v.digest, filled, by simp, fun u member => ?_⟩
  rcases List.mem_append.1 member with inGroup | isNew
  · rw [shape.digest_eq_first head u inGroup, same]
  · rw [List.mem_singleton.1 isNew]

end DigestGroup

namespace DigestsApart

variable {g h : List ChartVersion}

theorem symm (apart : DigestsApart g h) : DigestsApart h g := by
  intro w inH u inG same
  rw [same]
  exact apart u inG w inH same.symm

/-- A version that joins a group whose first version has its digest keeps the group apart
from every group it was apart from. -/
theorem append_right (apart : DigestsApart g h) {first v : ChartVersion} (firstIn : first ∈ h)
    (same : first.digest = v.digest) : DigestsApart g (h ++ [v]) := by
  intro u inG w member sameDigest
  rcases List.mem_append.1 member with inH | isNew
  · exact apart u inG w inH sameDigest
  · rw [List.mem_singleton.1 isNew] at sameDigest
    exact apart u inG first firstIn (sameDigest.trans same.symm)

/-- A version starts a group apart from every group whose first version has another
digest, and from every group when it has no digest. -/
theorem singleton (shape : DigestGroup g) {v : ChartVersion}
    (fresh : v.digest = "" ∨ g.head?.map (·.digest) ≠ some v.digest) : DigestsApart g [v] := by
  intro u inG w member same
  rw [List.mem_singleton.1 member] at same
  rcases fresh with blank | other
  · rw [same, blank]
  · -- the group's first version would have the version's digest
    obtain ⟨first, head⟩ := Option.ne_none_iff_exists'.1 (mt List.head?_eq_none_iff.1 shape.ne_nil)
    rw [head, Option.map_some, ← shape.digest_eq_first head u inG, same] at other
    exact absurd rfl other

end DigestsApart

/-! ## One version at a time -/

/-- A version joins the first group whose first version has its non-empty digest, or starts
a group of its own after the others. -/
theorem addToGroups_cases (v : ChartVersion) (groups : List (List ChartVersion)) :
    (∃ pre g post first, groups = pre ++ g :: post ∧ g.head? = some first ∧
        first.digest = v.digest ∧ v.digest ≠ "" ∧ addToGroups v groups = pre ++ (g ++ [v]) :: post) ∨
      ((v.digest = "" ∨ ∀ g ∈ groups, g.head?.map (·.digest) ≠ some v.digest) ∧
        addToGroups v groups = groups ++ [[v]]) := by
  induction groups with
  | nil => exact .inr ⟨.inr fun _ member => absurd member List.not_mem_nil, rfl⟩
  | cons g rest ih =>
    unfold addToGroups
    split
    · next joins =>
      simp only [Bool.and_eq_true, Bool.not_eq_true', String.isEmpty_eq_false_iff, ne_eq, beq_iff_eq,
        Option.map_eq_some_iff] at joins
      obtain ⟨filled, first, head, same⟩ := joins
      exact .inl ⟨[], g, rest, first, rfl, head, same, filled, rfl⟩
    · next passes =>
      have passes : v.digest = "" ∨ g.head?.map (·.digest) ≠ some v.digest := by
        simp only [Bool.and_eq_true, Bool.not_eq_true', String.isEmpty_eq_false_iff, beq_iff_eq] at passes
        exact (Classical.em (v.digest = "")).imp id fun filled same => passes ⟨filled, same⟩
      rcases ih with ⟨pre, g', post, first, rfl, head, same, filled, added⟩ | ⟨fresh, added⟩
      · exact .inl ⟨g :: pre, g', post, first, rfl, head, same, filled, by rw [added]; rfl⟩
      · refine .inr ⟨?_, by rw [added]; rfl⟩
        rcases fresh with blank | others
        · exact .inl blank
        · rcases passes with blank | other
          · exact .inl blank
          · exact .inr fun g' member => (List.mem_cons.1 member).elim (· ▸ other) (others g')

namespace DigestPartition

variable {versions : List ChartVersion} {groups : List (List ChartVersion)}

theorem nil : DigestPartition [] [] :=
  ⟨.nil, fun _ member => absurd member List.not_mem_nil, fun _ member => absurd member List.not_mem_nil,
    .nil, .slnil, rfl⟩

/-- A version that joins a group keeps the groups a partition of the versions with it added. -/
theorem join {pre post : List (List ChartVersion)} {g : List ChartVersion}
    (parts : DigestPartition versions (pre ++ g :: post)) {first v : ChartVersion}
    (head : g.head? = some first) (same : first.digest = v.digest) (filled : v.digest ≠ "") :
    DigestPartition (versions ++ [v]) (pre ++ (g ++ [v]) :: post) := by
  have firstIn : first ∈ g := List.mem_of_mem_head? head
  have grouped : g ∈ pre ++ g :: post := List.mem_append_right pre List.mem_cons_self
  have others : ∀ h ∈ pre ++ post, h ∈ pre ++ g :: post := by
    intro h member
    rcases List.mem_append.1 member with inPre | inPost
    · exact List.mem_append_left _ inPre
    · exact List.mem_append_right pre (List.mem_cons_of_mem g inPost)
  -- where the new group sits, and where the others
  have cases : ∀ h ∈ pre ++ (g ++ [v]) :: post, h = g ++ [v] ∨ h ∈ pre ++ post := by
    intro h member
    simp only [List.mem_append, List.mem_cons] at member ⊢
    rcases member with inPre | isNew | inPost
    · exact .inr (.inl inPre)
    · exact .inl isNew
    · exact .inr (.inr inPost)
  -- the joined group starts where the group did
  have heads : (g ++ [v]).head? = g.head? := by rw [List.head?_append, head]; rfl
  refine ⟨?perm, ?sublist, ?shape, ?apart, ?firstSeen, ?first⟩
  case perm =>
    have moved : (pre ++ (g ++ [v]) :: post).flatten.Perm ((pre ++ g :: post).flatten ++ [v]) := by
      simp only [List.flatten_append, List.flatten_cons, List.append_assoc]
      exact ((List.perm_append_comm).append_left g).append_left pre.flatten
    exact moved.trans (parts.perm.append_right [v])
  case sublist =>
    intro h member
    rcases cases h member with rfl | other
    · exact (parts.sublist g grouped).append (List.Sublist.refl [v])
    · exact (parts.sublist h (others h other)).trans (List.sublist_append_left versions [v])
  case shape =>
    intro h member
    rcases cases h member with rfl | other
    · exact (parts.shape g grouped).append head same filled
    · exact parts.shape h (others h other)
  case apart =>
    have old := parts.apart
    simp only [List.pairwise_append, List.pairwise_cons, List.mem_cons, forall_eq_or_imp] at old ⊢
    obtain ⟨inPre, ⟨afterG, inPost⟩, across⟩ := old
    exact ⟨inPre, ⟨fun b inB => ((afterG b inB).symm.append_right firstIn same).symm, inPost⟩,
      fun a inA => ⟨((across a inA).1).append_right firstIn same, (across a inA).2⟩⟩
  case firstSeen =>
    have same : (pre ++ (g ++ [v]) :: post).filterMap List.head? =
        (pre ++ g :: post).filterMap List.head? := by
      simp only [List.filterMap_append, List.filterMap_cons, heads]
    rw [same]
    exact parts.firstSeen.trans (List.sublist_append_left versions [v])
  case first =>
    -- the versions are not empty, since a group holds one of them
    have started : (pre ++ g :: post).head?.bind List.head? ≠ none := by
      cases pre with
      | nil => simp [head]
      | cons a rest =>
        simp only [List.cons_append, List.head?_cons, Option.bind_some]
        exact mt List.head?_eq_none_iff.1 (parts.shape a (by simp)).ne_nil
    have unchanged : (pre ++ (g ++ [v]) :: post).head?.bind List.head? =
        (pre ++ g :: post).head?.bind List.head? := by
      cases pre with
      | nil => simp only [List.nil_append, List.head?_cons, Option.bind_some, heads]
      | cons a rest => rfl
    rw [unchanged, parts.first, List.head?_append]
    rw [parts.first] at started
    obtain ⟨x, isSome⟩ := Option.ne_none_iff_exists'.1 started
    rw [isSome]
    rfl

/-- A version that starts a group of its own keeps the groups a partition of the versions
with it added. -/
theorem extend (parts : DigestPartition versions groups) {v : ChartVersion}
    (fresh : v.digest = "" ∨ ∀ g ∈ groups, g.head?.map (·.digest) ≠ some v.digest) :
    DigestPartition (versions ++ [v]) (groups ++ [[v]]) := by
  refine ⟨?perm, ?sublist, ?shape, ?apart, ?firstSeen, ?first⟩
  case perm =>
    rw [List.flatten_append, List.flatten_singleton]
    exact parts.perm.append_right [v]
  case sublist =>
    intro h member
    rcases List.mem_append.1 member with old | isNew
    · exact (parts.sublist h old).trans (List.sublist_append_left versions [v])
    · rw [List.mem_singleton.1 isNew]
      exact List.singleton_sublist.2 (List.mem_append_right versions List.mem_cons_self)
  case shape =>
    intro h member
    rcases List.mem_append.1 member with old | isNew
    · exact parts.shape h old
    · rw [List.mem_singleton.1 isNew]
      exact DigestGroup.singleton v
  case apart =>
    refine List.pairwise_append.2 ⟨parts.apart, List.pairwise_singleton _ _, fun g old h isNew => ?_⟩
    rw [List.mem_singleton.1 isNew]
    exact DigestsApart.singleton (parts.shape g old) (fresh.imp_right fun others => others g old)
  case firstSeen =>
    rw [List.filterMap_append]
    exact parts.firstSeen.append (List.Sublist.refl [v])
  case first =>
    cases groups with
    | nil =>
      -- no group yet: no version yet
      have none : versions = [] := List.Perm.eq_nil parts.perm.symm
      rw [none]
      rfl
    | cons g rest =>
      have started : versions.head? ≠ none := by
        rw [← parts.first]
        exact mt List.head?_eq_none_iff.1 (parts.shape g List.mem_cons_self).ne_nil
      obtain ⟨x, isSome⟩ := Option.ne_none_iff_exists'.1 started
      have unchanged : ((g :: rest) ++ [[v]]).head?.bind List.head? =
          (g :: rest).head?.bind List.head? := rfl
      rw [unchanged, parts.first, List.head?_append, isSome]
      rfl

/-- Adding a version to the groups of the versions before it keeps them a partition. -/
theorem addToGroups (parts : DigestPartition versions groups) (v : ChartVersion) :
    DigestPartition (versions ++ [v]) (ChartCatalog.addToGroups v groups) := by
  rcases addToGroups_cases v groups with
    ⟨pre, g, post, first, rfl, head, same, filled, added⟩ | ⟨fresh, added⟩
  · rw [added]
    exact parts.join head same filled
  · rw [added]
    exact parts.extend fresh

end DigestPartition

/-- The digest groups of every list of versions partition it as the files jobs need. -/
theorem digestPartition_digestGroups (versions : List ChartVersion) :
    DigestPartition versions (digestGroups versions) := by
  -- the groups are built by a left fold: generalise over the versions already grouped
  have grown : ∀ (rest done : List ChartVersion) (groups : List (List ChartVersion)),
      DigestPartition done groups →
        DigestPartition (done ++ rest) (rest.foldl (fun groups v => addToGroups v groups) groups) := by
    intro rest
    induction rest with
    | nil => exact fun done groups parts => by simpa using parts
    | cons v rest ih =>
      intro done groups parts
      simpa using ih (done ++ [v]) _ (parts.addToGroups v)
  simpa [digestGroups] using grown versions [] [] DigestPartition.nil

example :
    digestGroups [⟨"1.0.1", "", none, "same", []⟩, ⟨"1.0.0", "", none, "", []⟩,
        ⟨"0.9.0", "", none, "same", []⟩, ⟨"0.8.0", "", none, "", []⟩] =
      [[⟨"1.0.1", "", none, "same", []⟩, ⟨"0.9.0", "", none, "same", []⟩],
        [⟨"1.0.0", "", none, "", []⟩], [⟨"0.8.0", "", none, "", []⟩]] := by
  decide

/-! ## The jobs of a chart set -/

/-- The jobs are the icon jobs of the charts with an icon URL, then the first files job of
each chart, then the other files jobs of each chart. -/
theorem artifactJobs_eq_icons_latest_historic (charts : List Chart) :
    artifactJobs charts =
      (charts.filter fun c => !(Text.trim c.icon).isEmpty).map ArtifactJob.icon ++
        charts.flatMap (fun c => ((digestGroups c.versions).take 1).map (ArtifactJob.files c)) ++
        charts.flatMap (fun c => ((digestGroups c.versions).drop 1).map (ArtifactJob.files c)) := by
  have icons : (charts.filterMap fun c =>
      if (Text.trim c.icon).isEmpty then none else some (ArtifactJob.icon c)) =
        (charts.filter fun c => !(Text.trim c.icon).isEmpty).map ArtifactJob.icon := by
    rw [← List.filterMap_eq_map, List.filterMap_filter]
    apply congrArg (fun keep => List.filterMap keep charts)
    funext c
    cases (Text.trim c.icon).isEmpty <;> rfl
  simp only [artifactJobs, List.flatMap_map, icons]

/-- The artifact jobs of a chart set are one icon job for each chart whose icon URL is not
blank, in chart order, then for each chart in order the files job holding its first
version, then the other files jobs chart by chart; the files jobs of a chart split its
versions into digest groups (`DigestPartition`). -/
theorem artifact_jobs_partition_versions_in_order (charts : List Chart) :
    artifactJobs charts =
        (charts.filter fun c => !(Text.trim c.icon).isEmpty).map ArtifactJob.icon ++
          charts.flatMap (fun c => ((digestGroups c.versions).take 1).map (ArtifactJob.files c)) ++
          charts.flatMap (fun c => ((digestGroups c.versions).drop 1).map (ArtifactJob.files c)) ∧
      ∀ c ∈ charts, DigestPartition c.versions (digestGroups c.versions) :=
  ⟨artifactJobs_eq_icons_latest_historic charts, fun c _ => digestPartition_digestGroups c.versions⟩

end ChartCatalog
