import ChartCatalog.Catalog.Model
import ChartCatalog.Text.Blank

/-!
# Artifact jobs

After a repository's charts are stored, their icons and chart files are fetched as
separate jobs. Versions of one chart that share an archive digest share one archive,
so they form one files job; a version with no digest is a job of its own.

Jobs are ordered so that the most useful work runs first: every icon, then the group
holding each chart's newest version, then the remaining groups of every chart.
-/

set_option autoImplicit false

namespace ChartCatalog

/-- One unit of artifact work. -/
inductive ArtifactJob where
  /-- Fetch and store the icon of a chart. -/
  | icon (chart : Chart)
  /-- Fetch one archive and store the files of the versions it holds. -/
  | files (chart : Chart) (versions : List ChartVersion)
  deriving Inhabited

/-- Adds a version to the first group whose digest it shares, or as a new group. -/
def addToGroups (v : ChartVersion) : List (List ChartVersion) → List (List ChartVersion)
  | [] => [[v]]
  | g :: rest =>
    if !v.digest.isEmpty && (g.head?.map (·.digest)) == some v.digest then (g ++ [v]) :: rest
    else g :: addToGroups v rest

/-- The versions of a chart grouped by digest, groups in order of their first version. -/
def digestGroups (versions : List ChartVersion) : List (List ChartVersion) :=
  versions.foldl (fun groups v => addToGroups v groups) []

/-- The artifact jobs of a chart set, in the order they should run. -/
def artifactJobs (charts : List Chart) : List ArtifactJob :=
  let icons := charts.filterMap fun c =>
    if (Text.trim c.icon).isEmpty then none else some (ArtifactJob.icon c)
  let groups := charts.map fun c => (c, digestGroups c.versions)
  let latest := groups.flatMap fun (c, gs) => (gs.take 1).map (ArtifactJob.files c)
  let historic := groups.flatMap fun (c, gs) => (gs.drop 1).map (ArtifactJob.files c)
  icons ++ latest ++ historic

/-- Every version of a chart lands in exactly one digest group. -/
theorem addToGroups_flatten_length (v : ChartVersion) (groups : List (List ChartVersion)) :
    (addToGroups v groups).flatten.length = groups.flatten.length + 1 := by
  induction groups with
  | nil => simp [addToGroups]
  | cons g rest ih =>
    unfold addToGroups
    split <;> simp [ih] <;> omega

end ChartCatalog
