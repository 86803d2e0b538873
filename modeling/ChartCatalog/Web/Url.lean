import ChartCatalog.Web.Host

/-!
# URLs

A URL record as the URL Standard describes it: a scheme, credentials, an optional host
and port, a path, and optional query and fragment. The path is either a list of
segments or, for URLs that cannot serve as a base, one opaque text.

Six schemes are special: `ftp`, `file`, `http`, `https`, `ws` and `wss`. All but `file`
have a default port, which a URL never stores.

`Url.text` writes the record back as text. The origin of a URL with a special scheme
other than `file` is its scheme, host and port (the default port when none is given);
every other URL has an opaque origin, equal to no other origin, itself included.
-/

set_option autoImplicit false

namespace ChartCatalog.Web

/-- A URL path: segments joined by `/`, or the opaque text of a URL that cannot be a base. -/
inductive UrlPath where
  | segments (items : List String)
  | unsegmented (text : String)
  deriving DecidableEq, Repr

/-- The segments of a path; an unsegmented path has none. -/
def UrlPath.segmentsOrEmpty : UrlPath → List String
  | .segments items => items
  | .unsegmented _ => []

/-- A parsed URL. -/
structure Url where
  scheme : String
  username : String
  password : String
  host : Option Host
  port : Option Nat
  path : UrlPath
  query : Option String
  fragment : Option String
  deriving DecidableEq, Repr

/-- Whether a scheme has the special rules of the URL Standard. -/
def isSpecialScheme (scheme : String) : Bool :=
  scheme == "ftp" || scheme == "file" || scheme == "http" || scheme == "https" ||
    scheme == "ws" || scheme == "wss"

/-- The default port of a special scheme. -/
def defaultPort : String → Option Nat
  | "ftp" => some 21
  | "http" => some 80
  | "https" => some 443
  | "ws" => some 80
  | "wss" => some 443
  | _ => none

namespace Url

/-- Whether the URL has a host that is not empty. -/
def hasHost (url : Url) : Bool :=
  match url.host with
  | some (.domain "") => false
  | some _ => true
  | none => false

/-- The text of the path. -/
def pathText (url : Url) : String :=
  match url.path with
  | .unsegmented text => text
  | .segments items => String.join (items.map ("/" ++ ·))

/-- The text of the URL. -/
def text (url : Url) : String :=
  let authority := match url.host with
    | some host =>
      let credentials :=
        if url.username.isEmpty && url.password.isEmpty then ""
        else url.username ++ (if url.password.isEmpty then "" else ":" ++ url.password) ++ "@"
      let port := match url.port with
        | some p => ":" ++ toString p
        | none => ""
      "//" ++ credentials ++ host.text ++ port
    | none =>
      match url.path with
      | .segments ("" :: _ :: _) => "/."
      | _ => ""
  let query := match url.query with
    | some q => "?" ++ q
    | none => ""
  let fragment := match url.fragment with
    | some f => "#" ++ f
    | none => ""
  url.scheme ++ ":" ++ authority ++ url.pathText ++ query ++ fragment

/-- The port a connection uses: the given one or the scheme's default. -/
def effectivePort (url : Url) : Option Nat := url.port.orElse fun _ => defaultPort url.scheme

end Url

/-- The origin of a URL: a scheme, host and port, or an opaque origin. -/
inductive Origin where
  | tuple (scheme : String) (host : Host) (port : Option Nat)
  | unique
  deriving DecidableEq, Repr

/-- The origin of a URL whose scheme is special and not `file`. -/
def Url.tupleOrigin (url : Url) : Origin :=
  match url.host with
  | some host =>
    if isSpecialScheme url.scheme && url.scheme != "file" then
      .tuple url.scheme host url.effectivePort
    else .unique
  | none => .unique

/-- Two origins are the same when both are tuples with equal parts; an opaque origin is
the same as no other. -/
def Origin.same : Origin → Origin → Bool
  | .tuple s h p, .tuple s' h' p' => s == s' && h == h' && p == p'
  | _, _ => false

end ChartCatalog.Web
