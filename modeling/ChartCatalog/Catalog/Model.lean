import ChartCatalog.Time.Instant

/-!
# The catalog's records

A chart repository is indexed into charts, one per chart name, each with the versions
that are not deprecated, newest first. Every version may own a record of chart files
(its README, default values and values schema), extracted from its archive. A
checkpoint remembers the checksum of the last index synced for a repository, and a
package summary is the short form of a chart kept in the watch cache.

A repository's namespace is the Kubernetes namespace it belongs to; records carry it
as `ns`.
-/

set_option autoImplicit false

namespace ChartCatalog

/-- A repository as records refer to it: without credentials. -/
structure RepoRef where
  name : String
  /-- The Kubernetes namespace. -/
  ns : String
  url : String
  deriving DecidableEq, Repr, Inhabited

/-- A configured chart repository, with the `Authorization` value its requests carry. -/
structure Repo where
  name : String
  /-- The Kubernetes namespace. -/
  ns : String
  url : String
  authHeader : Option String
  deriving DecidableEq, Repr, Inhabited

/-- The credential-free reference to a repository. -/
def Repo.reference (repo : Repo) : RepoRef := ⟨repo.name, repo.ns, repo.url⟩

/-- A chart maintainer. -/
structure Maintainer where
  name : String
  email : String
  url : String
  deriving DecidableEq, Repr, Inhabited

/-- One published version of a chart. -/
structure ChartVersion where
  version : String
  appVersion : String
  created : Option Instant
  /-- SHA-256 of the chart archive, as the index gives it. -/
  digest : String
  /-- Archive download URLs, absolute or relative to the repository URL. -/
  urls : List String
  deriving DecidableEq, Repr, Inhabited

/-- A chart and its versions that are not deprecated, newest first. -/
structure Chart where
  /-- `<repository name>/<chart name>`. -/
  id : String
  name : String
  repo : RepoRef
  description : String
  home : String
  keywords : List String
  maintainers : List Maintainer
  sources : List String
  /-- The icon URL from the index. -/
  icon : String
  /-- The stored icon: PNG, or SVG as downloaded. -/
  rawIcon : Option ByteArray
  iconContentType : Option String
  versions : List ChartVersion
  deriving Inhabited

/-- The chart id of a chart in a repository. -/
def chartId (repoName chartName : String) : String := repoName ++ "/" ++ chartName

/-- The id of the chart files of one version of a chart. -/
def chartFilesId (chartId version : String) : String := chartId ++ "-" ++ version

/-- The text members extracted from one version's archive. -/
structure ChartFiles where
  /-- `<chart id>-<version>`. -/
  id : String
  readme : String
  values : String
  schema : String
  repo : RepoRef
  digest : String
  deriving DecidableEq, Repr, Inhabited

/-- The last index synced for a repository. -/
structure Checkpoint where
  name : String
  /-- The Kubernetes namespace. -/
  ns : String
  checksum : String
  lastUpdate : Instant
  deriving DecidableEq, Repr, Inhabited

/-- The short form of a chart kept in the watch cache. -/
structure PackageSummary where
  displayName : String
  latestVersion : String
  iconUrl : String
  /-- The Kubernetes namespace. -/
  ns : String
  /-- The chart id. -/
  identifier : String
  deriving DecidableEq, Repr, Inhabited

/-- The summary of a chart: its name, newest version, icon URL, namespace and id; a chart
without versions has none. -/
def PackageSummary.ofChart (chart : Chart) : Option PackageSummary :=
  chart.versions.head?.map fun latest =>
    ⟨chart.name, latest.version, chart.icon, chart.repo.ns, chart.id⟩

/-- A chart has a summary exactly when it has a version. -/
theorem PackageSummary.ofChart_isSome (chart : Chart) :
    (PackageSummary.ofChart chart).isSome = !chart.versions.isEmpty := by
  unfold PackageSummary.ofChart
  cases chart.versions <;> rfl

end ChartCatalog
