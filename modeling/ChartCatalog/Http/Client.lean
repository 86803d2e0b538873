import ChartCatalog.Config.Settings
import ChartCatalog.Config.Duration
import ChartCatalog.Http.Agent
import ChartCatalog.Http.Exchange
import ChartCatalog.Tls.Pem
import ChartCatalog.Tls.Der
import ChartCatalog.Web.Url.Read
import ChartCatalog.Disk
import ChartCatalog.Error

/-!
# The HTTP client

A client is built from the `[http]` section: a timeout, the `User-Agent` value, the
largest body it accepts, and the root certificates of an optional CA bundle, trusted on
top of the system's.

Building reads the timeout first; one that does not read as a duration falls back to
30 seconds, but one whose seconds overflow is an arithmetic failure. A CA bundle is then
read from disk (an IO error names the path and the system's error) and must mention
`-----BEGIN CERTIFICATE-----` somewhere. Last, the client itself is built, which fails
when the user agent is not a valid header value, when the bundle's PEM sections do not
decode, or when one of its certificates is not a well-formed certificate.

A request is checked before it is sent: its URL must read as a URL with a host, its
credentials must be a valid header value, and its scheme must be `http` or `https`. Then
the network answers, and a body larger than the client's limit is refused. Every failure
of a request is a transport error that names the URL.
-/

set_option autoImplicit false

namespace ChartCatalog.Http

/-- The catalog's version, as the user agent gives it. -/
def catalogVersion : String := "0.1.0"

/-- The timeout, in seconds, of a client whose configured timeout does not read. -/
def standardTimeout : Nat := 30

/-- Whether a text may be the value of a header: every byte is visible ASCII, a space, a
tab, or a byte from 128 up. -/
def isHeaderValue (s : String) : Bool :=
  s.toUTF8.toList.all fun b => (b ≥ 32 && b != 127) || b == 9

/-- A built client. -/
structure Client where
  /-- Seconds a request may take. -/
  timeout : Nat
  userAgent : String
  /-- The roots trusted on top of the system's, from the CA bundle. -/
  roots : List Der.TrustAnchor
  maxBodySize : Nat
  deriving Repr

/-- How building a client can end without one. -/
inductive BuildFailure where
  | failed (error : CatalogError)
  /-- The timeout's seconds overflow 64 bits. -/
  | timeoutOverflow
  deriving DecidableEq, Repr

namespace Client

/-- The timeout of a configuration, in seconds. -/
def timeoutOf (text : String) : Except BuildFailure Nat :=
  match Duration.parseSeconds text with
  | .ok n => .ok n
  | .error .overflow => .error .timeoutOverflow
  | .error _ => .ok standardTimeout

/-- A client build error. -/
def buildError (reason : String) : BuildFailure :=
  .failed (.init ("Failed to create HTTP client: builder error: " ++ reason))

/-- The bytes of a CA bundle, which must mention a certificate. -/
def readBundle (disk : Disk) (path : String) : Except BuildFailure ByteArray :=
  match disk.read path with
  | .error e => .error (.failed (.io ("Failed to read CA bundle " ++ path ++ ": " ++ e.message)))
  | .ok bytes =>
    if Pem.mentionsCertificate bytes then .ok bytes
    else .error (.failed (.init ("CA bundle " ++ path ++ " contains no PEM certificates")))

/-- The trust anchors of a CA bundle. -/
def rootsOf (bundle : ByteArray) : Except BuildFailure (List Der.TrustAnchor) :=
  match Pem.certificates bundle with
  | .error _ => .error (buildError "invalid certificate encoding")
  | .ok ders =>
    ders.mapM fun der =>
      match Der.trustAnchor der with
      | .ok anchor => .ok anchor
      | .error _ => .error (buildError "invalid peer certificate: BadEncoding")

/-- Builds a client from the `[http]` section, reading its CA bundle from a disk. -/
def build (disk : Disk) (config : HttpSection) : Except BuildFailure Client := do
  let timeout ← timeoutOf config.timeout
  let agent := Http.userAgent catalogVersion config.userAgentComment
  let bundle ← match config.caFile with
    | some path => some <$> readBundle disk path
    | none => pure none
  if !isHeaderValue agent then throw (buildError "failed to parse header value")
  let roots ← match bundle with
    | some bytes => rootsOf bytes
    | none => pure []
  pure ⟨timeout, agent, roots, config.maxBodySize⟩

/-- A client with the standard settings. -/
def standard (disk : Disk) : Except BuildFailure Client := build disk HttpSection.standard

/-- Why a request is refused before it is sent. -/
def refusal? (url : String) (auth : Option String) : Option String :=
  match Web.Url.parse url none with
  | .error e => some ("builder error: " ++ e.message)
  | .ok parsed =>
    if !parsed.hasHost then
      some ("builder error for url (" ++ parsed.text ++ "): URL scheme is not allowed")
    else if !(auth.map isHeaderValue).getD true then
      some "builder error: failed to parse header value"
    else if !(parsed.scheme == "http" || parsed.scheme == "https") then
      some ("builder error for url (" ++ parsed.text ++ "): URL scheme is not allowed")
    else none

/-- Sends a GET request through a network, with optional credentials, and gives the
response whatever its status. -/
def get (client : Client) (network : Fetch) (url : String) (auth : Option String) :
    Outcome Response :=
  let failed (reason : String) : CatalogError := .transport ("Failed to fetch " ++ url ++ ": " ++ reason)
  match refusal? url auth with
  | some reason => .error (failed reason)
  | none =>
    match network ⟨url, auth⟩ with
    | .error e => .error (failed e.message)
    | .ok response =>
      if response.body.size > client.maxBodySize then
        .error (.transport ("Response from " ++ url ++ " exceeds " ++
          toString client.maxBodySize ++ " bytes"))
      else .ok response

end Client

/-- A network with no route anywhere: every connection attempt fails. -/
def offline : Fetch := fun request =>
  .error (.transport ("error sending request for url (" ++ request.url ++ ")"))

end ChartCatalog.Http
