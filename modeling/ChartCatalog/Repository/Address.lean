import ChartCatalog.Web.Url.Read
import ChartCatalog.Catalog.Model
import ChartCatalog.Error
import ChartCatalog.Text.Blank

/-!
# Where a repository's files live

A repository publishes `index.yaml` under its base URL, and each chart version names
the URLs of its archive. The index URL is the base URL, trimmed and read as an
absolute `http` or `https` URL, with a `/` added to its path when missing and
`index.yaml` resolved against it, which drops any query and fragment.

An archive URL that reads as a URL with a host is used as it is; any other is taken as
relative to the repository: the trimmed repository URL without trailing slashes, a
slash, and the archive URL without leading slashes.

Credentials travel only to the repository's own origin: two URLs share an origin when
both read as URLs, the first has a host, and their schemes, hosts and ports agree.
-/

set_option autoImplicit false

namespace ChartCatalog.Repository

open Web

/-- The URL of a repository's index, read. -/
def indexLocation (repoUrl : String) : Outcome Url :=
  let trimmed := Text.trim repoUrl
  match Url.parse trimmed none with
  | .error e => .error (.parse ("Invalid repository URL '" ++ trimmed ++ "': " ++ e.message))
  | .ok url =>
    if !(url.scheme == "http" || url.scheme == "https") || !url.hasHost then
      .error (.parse ("Repository URL '" ++ trimmed ++ "' must be an absolute http(s) URL"))
    else
      let path := match url.path with
        | .segments items => if items.getLast? == some "" then items else items ++ [""]
        | other => other.segmentsOrEmpty
      let base := { url with path := .segments path }
      match Url.parse "index.yaml" (some base) with
      | .ok index => .ok index
      | .error e => .error (.parse ("Invalid repository URL '" ++ trimmed ++ "': " ++ e.message))

/-- The URL of a repository's index. -/
def indexUrl (repoUrl : String) : Outcome String := (indexLocation repoUrl).map Url.text

/-- Characters cut from the front while they match. -/
def dropLeading (c : Char) (s : String) : String := String.ofList (s.toList.dropWhile (· == c))

/-- Characters cut from the end while they match. -/
def dropTrailing (c : Char) (s : String) : String :=
  String.ofList (s.toList.reverse.dropWhile (· == c)).reverse

/-- The URL to download a version's archive from. -/
def archiveUrl (repoUrl : String) (version : ChartVersion) : Outcome String :=
  let source := (version.urls.head?.map Text.trim).getD ""
  if source.isEmpty then
    .error (.artifact ("Chart version " ++ version.version ++ " has no download URL"))
  else
    match Url.parse source none with
    | .ok url =>
      if url.hasHost then .ok source
      else .ok (dropTrailing '/' (Text.trim repoUrl) ++ "/" ++ dropLeading '/' source)
    | .error _ => .ok (dropTrailing '/' (Text.trim repoUrl) ++ "/" ++ dropLeading '/' source)

/-- Whether two URLs share scheme, host and port, the first having a host. -/
def sameOrigin (a b : String) : Bool :=
  match Url.parse (Text.trim a) none, Url.parse (Text.trim b) none with
  | .ok x, .ok y => x.hasHost && x.origin.same y.origin
  | _, _ => false

end ChartCatalog.Repository
