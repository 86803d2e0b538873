import ChartCatalog.Yaml.Decode
import ChartCatalog.Catalog.Model
import ChartCatalog.Digest.Check
import ChartCatalog.Text.Blank
import ChartCatalog.Error
import ChartCatalog.Json.Value

/-!
# Repository indexes

A chart repository publishes `index.yaml`: an API version and, for each chart name,
its versions, newest first. Every field of a version may be left out, and the list
fields may also be null; a left-out or null field is empty.

An index is read with the YAML decoders, so its text follows their rules: scalars of
any kind are text, only the six plain spellings of true and false are booleans, and
keys the index format does not define are ignored. An index that is all ASCII
whitespace is refused before any YAML is read.
-/

set_option autoImplicit false

namespace ChartCatalog

/-- One chart version as the index lists it. -/
structure IndexEntry where
  name : String
  version : String
  appVersion : String
  description : String
  home : String
  keywords : List String
  maintainers : List Maintainer
  sources : List String
  icon : String
  deprecated : Bool
  urls : List String
  digest : String
  /-- The creation time, as written. -/
  created : Option String
  deriving DecidableEq, Repr, Inhabited

/-- A repository index: chart name to versions, sorted by chart name. -/
structure IndexFile where
  apiVersion : String
  entries : List (String × List IndexEntry)
  deriving DecidableEq, Repr, Inhabited

namespace IndexDecoding

open Yaml Yaml.Decoder

/-- A maintainer record. -/
def maintainer : Loaded → Decoder Maintainer :=
  recordFrom default fun
    | "name" => some fun m => do pure { m with name := ← text }
    | "email" => some fun m => do pure { m with email := ← text }
    | "url" => some fun m => do pure { m with url := ← text }
    | _ => none

/-- A list of text that may be null. -/
def texts : Decoder (List String) := orDefault (listFrom text) []

/-- A version record. -/
def entry : Loaded → Decoder IndexEntry :=
  recordFrom default fun
    | "name" => some fun e => do pure { e with name := ← text }
    | "version" => some fun e => do pure { e with version := ← text }
    | "appVersion" => some fun e => do pure { e with appVersion := ← text }
    | "description" => some fun e => do pure { e with description := ← text }
    | "home" => some fun e => do pure { e with home := ← text }
    | "keywords" => some fun e => do pure { e with keywords := ← texts }
    | "maintainers" => some fun e => do
        pure { e with maintainers := ← orDefault (listFrom (resolve maintainer)) [] }
    | "sources" => some fun e => do pure { e with sources := ← texts }
    | "icon" => some fun e => do pure { e with icon := ← text }
    | "deprecated" => some fun e => do pure { e with deprecated := ← flag }
    | "urls" => some fun e => do pure { e with urls := ← texts }
    | "digest" => some fun e => do pure { e with digest := ← text }
    | "created" => some fun e => do pure { e with created := ← optional textFrom }
    | _ => none

/-- The index record. -/
def indexFile : Loaded → Decoder IndexFile :=
  recordFrom default fun
    | "apiVersion" => some fun f => do pure { f with apiVersion := ← text }
    | "entries" => some fun f => do
        pure { f with entries := ← orDefault (mapFrom (resolve (listFrom (resolve entry)))) [] }
    | _ => none

end IndexDecoding

/-- Reads a repository index. -/
def parseIndex (data : ByteArray) : Outcome IndexFile :=
  if data.data.all Text.isAsciiBlankByte then .error (.parse "Repository index is empty")
  else
    match Yaml.Document.ofBytes data >>= (Yaml.Decoder.resolve IndexDecoding.indexFile).run with
    | .ok index => .ok index
    | .error e => .error (.parse ("Invalid repository index: " ++ e))

/-- The checksum that identifies a revision of an index. -/
def indexChecksum (data : ByteArray) : String := Digest.sha256 data

/-- The JSON form of an index entry. -/
def IndexEntry.toJson (e : IndexEntry) : Json :=
  .obj [("app_version", .str e.appVersion),
    ("created", match e.created with
      | some c => .str c
      | none => .null),
    ("deprecated", .bool e.deprecated), ("description", .str e.description),
    ("digest", .str e.digest), ("home", .str e.home), ("icon", .str e.icon),
    ("keywords", .arr (e.keywords.map .str)),
    ("maintainers", .arr (e.maintainers.map fun m =>
      .obj [("email", .str m.email), ("name", .str m.name), ("url", .str m.url)])),
    ("name", .str e.name), ("sources", .arr (e.sources.map .str)),
    ("urls", .arr (e.urls.map .str)), ("version", .str e.version)]

/-- The JSON form of an index. -/
def IndexFile.toJson (f : IndexFile) : Json :=
  .obj [("api_version", .str f.apiVersion),
    ("entries", .obj (f.entries.map fun (name, versions) =>
      (name, .arr (versions.map IndexEntry.toJson))))]

end ChartCatalog
