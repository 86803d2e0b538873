import ChartCatalog.Repository.Index
import ChartCatalog.Time.Rfc3339
import ChartCatalog.Text.Blank

/-!
# Building charts from an index

A chart of the catalog is made from the index entries of one chart name. Deprecated
versions are left out, and a chart with no other version is not made at all. The
chart's own fields (description, home page, keywords, maintainers, sources, icon) come
from its first remaining version, which the index lists as the newest.

A version's creation time is read as RFC 3339 after trimming blanks; a time that does
not read is left out rather than refusing the index.
-/

set_option autoImplicit false

namespace ChartCatalog

/-- The catalog form of an index entry. -/
def IndexEntry.toVersion (e : IndexEntry) : ChartVersion :=
  { version := e.version
    appVersion := e.appVersion
    created := e.created.bind fun c => Instant.parseStrict? (Text.trim c)
    digest := e.digest
    urls := e.urls }

/-- The chart made from the index entries of one name, if any entry is not deprecated. -/
def newChart (name : String) (entries : List IndexEntry) (repo : Repo) : Option Chart :=
  match entries.filter (!·.deprecated) with
  | [] => none
  | live@(newest :: _) =>
    some { id := chartId repo.name name
           name := name
           repo := repo.reference
           description := newest.description
           home := newest.home
           keywords := newest.keywords
           maintainers := newest.maintainers
           sources := newest.sources
           icon := newest.icon
           rawIcon := none
           iconContentType := none
           versions := live.map IndexEntry.toVersion }

/-- The charts of an index, in the order of their names. -/
def chartsFromIndex (index : IndexFile) (repo : Repo) : List Chart :=
  index.entries.filterMap fun (name, entries) => newChart name entries repo

/-- The entries an index lists under a name; none when the name is absent. -/
def IndexFile.entriesOf (index : IndexFile) (name : String) : List IndexEntry :=
  (index.entries.lookup name).getD []

/-- A chart made from the index has versions, and they are the live entries. -/
theorem newChart_versions (name : String) (entries : List IndexEntry) (repo : Repo)
    (chart : Chart) (h : newChart name entries repo = some chart) :
    chart.versions = (entries.filter (!·.deprecated)).map IndexEntry.toVersion := by
  unfold newChart at h
  split at h
  · cases h
  · rename_i live newest rest heq
    cases h
    simp [heq]

end ChartCatalog
