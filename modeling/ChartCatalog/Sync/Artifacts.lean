import ChartCatalog.Sync.Pass
import ChartCatalog.Repository.Address
import ChartCatalog.Archive.Tar
import ChartCatalog.Archive.Gzip
import ChartCatalog.Image.Icon
import ChartCatalog.Text.Blank

/-!
# Chart artifacts

What a pass adds to the charts beyond the index: the chart files of each version,
taken from its archive, and the chart's icon.

Chart files are imported for a group of versions that share one archive. A version
whose files are already stored for this repository, namespace and digest is counted as
present and left alone. If any version is missing, the archive of the first missing one
is downloaded once, with the repository's credentials, and each missing version gets a
record holding the archive's `README.md`, `values.yaml` and `values.schema.json` under
the chart's directory (empty when absent), the repository and the version's digest.

An icon is fetched from the chart's trimmed icon URL, with the repository's credentials
only when the icon shares the repository's origin. A response whose content type
mentions `svg` in any case is stored as it came, under that content type; any other
body is normalised into a PNG (`Icon.normalize`) and stored as `image/png`. A chart
without an icon URL has nothing to import.
-/

set_option autoImplicit false

namespace ChartCatalog

/-- What importing the files of a group of versions did. -/
structure FilesOutcome where
  /-- Chart files records written. -/
  imported : Nat
  /-- Versions whose files were already stored. -/
  alreadyPresent : Nat
  deriving DecidableEq, Repr, Inhabited

/-- What importing a chart's icon did. -/
inductive IconOutcome where
  /-- The chart has no icon URL. -/
  | noIcon
  /-- The icon was stored with this content type and this many bytes. -/
  | imported (contentType : String) (size : Nat)
  deriving DecidableEq, Repr, Inhabited

namespace Pass

/-- The text of an extracted member, empty when it is missing. -/
def member (files : List (String × String)) (key : String) : String :=
  (files.lookup key).getD ""

/-- The chart files record of a version under a files id, from the members extracted
from its archive. -/
def filesRecord (repo : Repo) (files : List (String × String)) (filesId : String)
    (version : ChartVersion) : ChartFiles :=
  ⟨filesId, member files "readme", member files "values", member files "schema",
    repo.reference, version.digest⟩

/-- The versions of a group whose files are not stored for this repository, namespace and
digest, each with its files id, in order. -/
def missingFiles (c : Catalog) (repo : Repo) (chart : Chart) (versions : List ChartVersion) :
    List (String × ChartVersion) :=
  (versions.map fun version => (chartFilesId chart.id version.version, version)).filter
    fun (filesId, version) => !c.filesExist filesId repo.name repo.ns version.digest

/-- Imports the chart files of versions of a chart that share one archive, under a fault
plan for the store writes. -/
def importFilesUnder (faults : StoreFaults) (repo : Repo) (chart : Chart)
    (versions : List ChartVersion) : Pass FilesOutcome := do
  let missing := missingFiles (← catalog) repo chart versions
  let present := versions.length - missing.length
  match missing with
  | [] => pure ⟨0, present⟩
  | (_, first) :: _ =>
    let url ← ofOutcome (Repository.archiveUrl repo.url first)
    let response ← getChecked url repo.authHeader
    let files ← ofOutcome (Tar.extract (Tar.chartMemberPaths chart.name)
      (Gzip.source response.body))
    missing.forM fun (filesId, version) =>
      insertFiles faults chart.id (filesRecord repo files filesId version)
    pure ⟨missing.length, present⟩

/-- Imports the chart files of versions of a chart that share one archive. -/
def importFiles (repo : Repo) (chart : Chart) (versions : List ChartVersion) :
    Pass FilesOutcome :=
  importFilesUnder .none repo chart versions

/-- Whether a content type names an SVG image. -/
def isSvg (contentType : String) : Bool :=
  let lower := String.ofList (contentType.toList.map Char.toLower)
  (lower.splitOn "svg").length > 1

/-- Fetches, normalises and stores a chart's icon, under a fault plan for the store
write. -/
def importIconUnder (faults : StoreFaults) (repo : Repo) (chart : Chart) : Pass IconOutcome := do
  let iconUrl := Text.trim chart.icon
  if iconUrl.isEmpty then return .noIcon
  let auth := if Repository.sameOrigin repo.url iconUrl then repo.authHeader else none
  let response ← getChecked iconUrl auth
  let contentType := response.contentType.getD ""
  let (icon, contentType) ←
    if isSvg contentType then pure (response.body, contentType)
    else do
      let png ← ofOutcome (Icon.normalize response.body)
      pure (png, Icon.contentType)
  updateIcon faults repo chart.id icon contentType
  pure (.imported contentType icon.size)

/-- Fetches, normalises and stores a chart's icon. -/
def importIcon (repo : Repo) (chart : Chart) : Pass IconOutcome :=
  importIconUnder .none repo chart

end Pass

end ChartCatalog
