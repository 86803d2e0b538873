import ChartCatalog.Web.Url

/-!
# Reading URLs

The basic URL parser of the URL Standard, written as functions on the text that is left
rather than as a state machine.

Before reading, controls and spaces at both ends are cut and every tab and line break is
removed. A scheme is a letter followed by letters, digits, `+`, `-` and `.`, and ends
at a colon; it is lowercased. After a special scheme other than `file`, any number of
slashes and backslashes lead to the authority: credentials up to the last `@`, a host,
and a port. After any other scheme, two slashes lead to an authority, one slash to a
path, and anything else to an opaque path. Text without a scheme is resolved against a
base URL, if one is given.

A path is read segment by segment. A segment `.` (or `%2e`) is dropped, and `..` (in
any mix of `.` and `%2e`) also drops the segment before it; a path that ends in either
ends with an empty segment. Paths, queries, fragments and credentials are
percent-encoded with their sets (`Web.Percent`).
-/

set_option autoImplicit false

namespace ChartCatalog.Web

/-- Cuts controls and spaces at both ends, and removes tabs and line breaks. -/
def prepareInput (input : String) : List Char :=
  let edge (c : Char) : Bool := c.toNat ≤ 0x20
  let cs := ((input.toList.dropWhile edge).reverse.dropWhile edge).reverse
  cs.filter fun c => c != '\t' && c != '\n' && c != '\r'

/-- ASCII lowercasing of one character. -/
def lowerAscii (c : Char) : Char := if 'A' ≤ c && c ≤ 'Z' then Char.ofNat (c.toNat + 32) else c

/-- A scheme at the front of the text and the text after its colon. -/
def readScheme? (cs : List Char) : Option (String × List Char) :=
  match cs with
  | c :: _ =>
    if c.isAlpha then
      let name := cs.takeWhile fun c => c.isAlphanum || c == '+' || c == '-' || c == '.'
      match cs.drop name.length with
      | ':' :: rest => some (String.ofList (name.map lowerAscii), rest)
      | _ => none
    else none
  | [] => none

/-- A path separator: `/`, or also `\` under a special scheme. -/
def isSlash (special : Bool) (c : Char) : Bool := c == '/' || (special && c == '\\')

/-- A segment that stands for the parent: `..` with either dot possibly written `%2e`. -/
def isDoubleDot (seg : List Char) : Bool :=
  match seg.map lowerAscii with
  | ['.', '.'] | ['.', '%', '2', 'e'] | ['%', '2', 'e', '.'] | ['%', '2', 'e', '%', '2', 'e'] => true
  | _ => false

/-- A segment that stands for the current directory: `.` or `%2e`. -/
def isSingleDot (seg : List Char) : Bool :=
  match seg.map lowerAscii with
  | ['.'] | ['%', '2', 'e'] => true
  | _ => false

/-- A Windows drive letter: a letter and a colon or bar. -/
def isDriveLetter (seg : List Char) : Bool :=
  match seg with
  | [a, b] => a.isAlpha && (b == ':' || b == '|')
  | _ => false

/-- A normalized Windows drive letter: a letter and a colon. -/
def isNormalizedDriveLetter (seg : String) : Bool :=
  match seg.toList with
  | [a, ':'] => a.isAlpha
  | _ => false

/-- Drops the last path segment, except a lone drive letter of a `file` URL. -/
def shortenPath (isFile : Bool) (path : List String) : List String :=
  match path with
  | [only] => if isFile && isNormalizedDriveLetter only then path else []
  | _ => path.dropLast

/-- The path after one raw segment, `slash` telling whether a separator follows it: `..`
drops the last segment and `.` adds none, each leaving an empty segment when nothing
follows; any other segment is percent-encoded and added. -/
def pushSegment (isFile : Bool) (path : List String) (raw : List Char) (slash : Bool) :
    List String :=
  if isDoubleDot raw then
    let shorter := shortenPath isFile path
    if slash then shorter else shorter ++ [""]
  else if isSingleDot raw then
    if slash then path else path ++ [""]
  else
    let raw := match raw with
      | [a, '|'] => if isFile && path.isEmpty && a.isAlpha then [a, ':'] else raw
      | _ => raw
    path ++ [String.ofList (encodeChars .path raw)]

/-- Reads path segments onto `path` until a query, a fragment or the end; `fuel` bounds
the segments by the length of the text. -/
def readSegments (special isFile : Bool) : Nat → List String → List Char → List String × List Char
  | 0, path, cs => (path, cs)
  | fuel + 1, path, cs =>
    let isStop (c : Char) : Bool := isSlash special c || c == '?' || c == '#'
    let raw := cs.takeWhile fun c => !isStop c
    let rest := cs.dropWhile fun c => !isStop c
    let (slash, after) := match rest with
      | c :: r => if isSlash special c then (true, r) else (false, rest)
      | [] => (false, [])
    let path := pushSegment isFile path raw slash
    if slash then readSegments special isFile fuel path after else (path, after)

/-- Reads a path from its first segment. -/
def readPath (special isFile : Bool) (path : List String) (cs : List Char) :
    List String × List Char :=
  readSegments special isFile (cs.length + 1) path cs

/-- Reads the optional query and fragment that follow a path. -/
def readQueryAndFragment (special : Bool) (cs : List Char) : Option String × Option String :=
  let fragmentOf (rest : List Char) : Option String :=
    match rest with
    | '#' :: f => some (String.ofList (encodeChars .fragment f))
    | _ => none
  match cs with
  | '?' :: rest =>
    let q := rest.takeWhile (· != '#')
    let set := if special then EncodeSet.specialQuery else EncodeSet.query
    (some (String.ofList (encodeChars set q)), fragmentOf (rest.drop q.length))
  | _ => (none, fragmentOf cs)

/-- The part of an authority before its host: credentials, if any. -/
structure Credentials where
  username : String
  password : String
  /-- Whether any credential character was written. -/
  present : Bool

/-- Splits the credentials off an authority at its last `@`. -/
def readCredentials (special : Bool) (cs : List Char) :
    Except UrlError (Credentials × List Char) :=
  let isEnd (c : Char) : Bool := c == '/' || c == '?' || c == '#' || (special && c == '\\')
  let region := cs.takeWhile fun c => !isEnd c
  let none_ : Credentials := ⟨"", "", false⟩
  if !region.contains '@' then .ok (none_, cs)
  else
    let lastAt := region.length - 1 - region.reverse.idxOf '@'
    let userinfo := region.take lastAt
    let rest := cs.drop (lastAt + 1)
    if userinfo.isEmpty then
      match rest with
      | c :: _ => if isEnd c then .error .emptyHost else .ok (none_, rest)
      | [] => .ok (none_, rest)
    else
      let user := userinfo.takeWhile (· != ':')
      let pass := (userinfo.drop user.length).drop 1
      let creds : Credentials :=
        ⟨String.ofList (encodeChars .userinfo user), String.ofList (encodeChars .userinfo pass),
          !user.isEmpty || !pass.isEmpty⟩
      .ok (creds, rest)

/-- Splits the host text off the front: it ends at a colon outside brackets, or where
the authority ends. -/
def splitHost (special : Bool) : Bool → List Char → List Char × List Char
  | _, [] => ([], [])
  | inside, c :: rest =>
    if (c == ':' && !inside) || c == '/' || c == '?' || c == '#' || (special && c == '\\') then
      ([], c :: rest)
    else
      let inside := if c == '[' then true else if c == ']' then false else inside
      let (host, after) := splitHost special inside rest
      (c :: host, after)

/-- Reads a port after its colon; the default port of the scheme is no port. -/
def readPort (scheme : String) (cs : List Char) : Except UrlError (Option Nat × List Char) :=
  let digits := cs.takeWhile Char.isDigit
  let rest := cs.drop digits.length
  let value := digits.foldl (fun n d => 10 * n + (d.toNat - 48)) 0
  let endsWell := match rest with
    | c :: _ => c == '/' || c == '\\' || c == '?' || c == '#'
    | [] => true
  if value > 65535 || !endsWell then .error .invalidPort
  else if digits.isEmpty || defaultPort scheme == some value then .ok (none, rest)
  else .ok (some value, rest)

/-- What an authority gives: credentials, host and port. -/
structure Authority where
  credentials : Credentials
  host : Host
  port : Option Nat

/-- Reads the port that a colon after the host starts, if there is one. -/
def readPortAfter (scheme : String) (cs : List Char) : Except UrlError (Option Nat × List Char) :=
  match cs with
  | ':' :: more => readPort scheme more
  | _ => pure (none, cs)

/-- Reads a host's text: a special scheme refuses an empty host. -/
def readHostText (special : Bool) (hostText : List Char) : Except UrlError Host :=
  if special then
    if hostText.isEmpty then Except.error UrlError.emptyHost else readSpecialHost hostText
  else readOpaqueHost hostText

/-- Reads the host and port of an authority, after its credentials. -/
def readHostAndPort (scheme : String) (creds : Credentials) (cs : List Char) :
    Except UrlError (Authority × List Char) := do
  let (hostText, rest) := splitHost (isSpecialScheme scheme) false cs
  let host ← readHostText (isSpecialScheme scheme) hostText
  if host == .domain "" && (rest.head? == some ':' || creds.present) then
    Except.error UrlError.emptyHost
  let (port, rest) ← readPortAfter scheme rest
  pure (⟨creds, host, port⟩, rest)

/-- Reads an authority: credentials, host and port. -/
def readAuthority (scheme : String) (cs : List Char) : Except UrlError (Authority × List Char) := do
  let (creds, rest) ← readCredentials (isSpecialScheme scheme) cs
  readHostAndPort scheme creds rest

/-- Completes a URL from its path onwards, given the scheme and authority. -/
def finishHierarchical (scheme : String) (auth : Option Authority) (cs : List Char) : Url :=
  let special := isSpecialScheme scheme
  let isFile := scheme == "file"
  let (path, rest) :=
    if special then
      let cs := match cs with
        | c :: r => if isSlash true c then r else cs
        | [] => cs
      readPath true isFile [] cs
    else
      match cs with
      | '/' :: r => readPath false false [] r
      | '?' :: _ | '#' :: _ | [] => ([], cs)
      | _ => readPath false false [] cs
  let (query, fragment) := readQueryAndFragment special rest
  { scheme := scheme,
    username := (auth.map (·.credentials.username)).getD "",
    password := (auth.map (·.credentials.password)).getD "",
    host := auth.map (·.host), port := auth.bind (·.port),
    path := .segments path, query := query, fragment := fragment }

/-- Reads a URL after its scheme when the scheme is `file`. -/
def readFile (cs : List Char) : Except UrlError Url := do
  let bare (path : List String) (rest : List Char) : Url :=
    let (query, fragment) := readQueryAndFragment true rest
    { scheme := "file", username := "", password := "", host := some (.domain ""), port := none,
      path := .segments path, query := query, fragment := fragment }
  match cs with
  | c :: d :: rest =>
    if isSlash true c && isSlash true d then
      let isEnd (x : Char) : Bool := x == '/' || x == '\\' || x == '?' || x == '#'
      let hostText := rest.takeWhile fun x => !isEnd x
      if isDriveLetter hostText then
        let (path, after) := readPath true true [] rest
        pure (bare path after)
      else
        let host ← if hostText.isEmpty then pure (Host.domain "") else readSpecialHost hostText
        let host := if host == .domain "localhost" then Host.domain "" else host
        let after := rest.drop hostText.length
        let after := match after with
          | x :: r => if isSlash true x then r else after
          | [] => after
        let (path, after) := readPath true true [] after
        let (query, fragment) := readQueryAndFragment true after
        pure { scheme := "file", username := "", password := "", host := some host, port := none,
               path := .segments path, query := query, fragment := fragment }
    else if isSlash true c then
      let (path, after) := readPath true true [] (d :: rest)
      pure (bare path after)
    else
      let (path, after) := readPath true true [] cs
      pure (bare path after)
  | [c] =>
    if isSlash true c then
      let (path, after) := readPath true true [] []
      pure (bare path after)
    else
      let (path, after) := readPath true true [] cs
      pure (bare path after)
  | [] =>
    let (path, after) := readPath true true [] []
    pure (bare path after)

/-- Reads text that has no scheme of its own against a base URL with segments. -/
def readRelative (base : Url) (cs : List Char) : Except UrlError Url :=
  let special := isSpecialScheme base.scheme
  let isFile := base.scheme == "file"
  let basePath := match base.path with
    | .segments items => items
    | .unsegmented _ => []
  let keep : Url := { base with fragment := none }
  match cs with
  | [] => .ok keep
  | c :: rest =>
    if isSlash special c then
      match rest with
      | d :: more =>
        if (special && isSlash true d) || (!special && d == '/') then
          let more := if special then more.dropWhile (isSlash true) else more
          (readAuthority base.scheme more).map fun (auth, after) =>
            finishHierarchical base.scheme (some auth) after
        else
          let (path, after) := readPath special isFile [] rest
          let (query, fragment) := readQueryAndFragment special after
          .ok { keep with path := .segments path, query := query, fragment := fragment }
      | [] =>
        let (path, after) := readPath special isFile [] rest
        let (query, fragment) := readQueryAndFragment special after
        .ok { keep with path := .segments path, query := query, fragment := fragment }
    else if c == '?' then
      let (query, fragment) := readQueryAndFragment special cs
      .ok { keep with query := query, fragment := fragment }
    else if c == '#' then
      let (_, fragment) := readQueryAndFragment special cs
      .ok { base with fragment := fragment }
    else
      let (path, after) := readPath special isFile (shortenPath isFile basePath) cs
      let (query, fragment) := readQueryAndFragment special after
      .ok { keep with path := .segments path, query := query, fragment := fragment }

/-- Reads a URL from prepared text, resolving text without a scheme against `base` when
one is given. -/
def Url.read (cs : List Char) (base : Option Url) : Except UrlError Url :=
  match readScheme? cs with
  | some (scheme, rest) =>
    if scheme == "file" then readFile rest
    else if isSpecialScheme scheme then
      let slashes := (rest.takeWhile (isSlash true)).length
      match base with
      | some b =>
        if slashes < 2 && b.scheme == scheme then readRelative b rest
        else
          (readAuthority scheme (rest.drop slashes)).map fun (auth, after) =>
            finishHierarchical scheme (some auth) after
      | none =>
        (readAuthority scheme (rest.drop slashes)).map fun (auth, after) =>
          finishHierarchical scheme (some auth) after
    else
      match rest with
      | '/' :: '/' :: more =>
        (readAuthority scheme more).map fun (auth, after) =>
          let url := finishHierarchical scheme (some auth) after
          if auth.host == .domain "" then url else url
      | '/' :: more =>
        let (path, after) := readPath false false [] more
        let (query, fragment) := readQueryAndFragment false after
        .ok { scheme := scheme, username := "", password := "", host := none, port := none,
              path := .segments path, query := query, fragment := fragment }
      | _ =>
        let body := rest.takeWhile fun c => c != '?' && c != '#'
        let (query, fragment) := readQueryAndFragment false (rest.drop body.length)
        .ok { scheme := scheme, username := "", password := "", host := none, port := none,
              path := .unsegmented (String.ofList (encodeChars .controls body)),
              query := query, fragment := fragment }
  | none =>
    match base with
    | none => .error .relativeWithoutBase
    | some b =>
      match b.path with
      | .unsegmented _ =>
        match cs with
        | '#' :: _ =>
          let (_, fragment) := readQueryAndFragment false cs
          .ok { b with fragment := fragment }
        | _ => .error .relativeWithOpaqueBase
      | .segments _ => readRelative b cs

/-- Reads a URL, resolving text without a scheme against `base` when one is given. -/
def Url.parse (input : String) (base : Option Url) : Except UrlError Url :=
  Url.read (prepareInput input) base

/-- The origin of a URL. A `blob:` URL has the origin of the URL its path holds, when that
path reads as a URL on its own, and an opaque origin otherwise; `fuel` bounds the nesting
of `blob:` URLs. -/
def Url.originWithin : Nat → Url → Origin
  | 0, _ => .unique
  | fuel + 1, url =>
    if url.scheme == "blob" then
      match Url.parse url.pathText none with
      | .ok inner => Url.originWithin fuel inner
      | .error _ => .unique
    else url.tupleOrigin

/-- The origin of a URL; each `blob:` layer is shorter than the last, so the text's length
bounds the nesting. -/
def Url.origin (url : Url) : Origin := url.originWithin (url.text.length + 1)

end ChartCatalog.Web
