import ChartCatalog.Cbor.Item
import ChartCatalog.Catalog.Model
import ChartCatalog.Error

/-!
# Cached package summaries

The watch cache keeps the package summaries of a repository as one CBOR array of
maps. Each map has the text keys `display_name`, `latest_version`, `icon_url`,
`namespace` and `identifier`, in that order, with text values; the array and the maps
have definite lengths.

Reading is more lenient than writing: tags anywhere are skipped, lengths may be
indefinite, keys may come in any order or as byte strings, keys other than the five
are skipped with their values, and bytes after the array are ignored. A summary must
be a map, not an array; each of the five keys must appear exactly once with a text
value; keys longer than 4096 bytes are refused.
-/

set_option autoImplicit false

namespace ChartCatalog

namespace PackageSummary

open Cbor

/-- The keys of a summary map, in the order they are written. -/
def keys : List String := ["display_name", "latest_version", "icon_url", "namespace", "identifier"]

/-- The values of a summary, in key order. -/
def values (s : PackageSummary) : List String :=
  [s.displayName, s.latestVersion, s.iconUrl, s.ns, s.identifier]

/-- The CBOR map of a summary. -/
def writeCbor (s : PackageSummary) : List UInt8 :=
  writeHead 5 5 ++ (keys.zip s.values).flatMap fun (k, v) => writeText k ++ writeText v

/-- The longest key a reader accepts, in bytes. -/
def maxKeyLength : Nat := 4096

/-- The key at a position: definite text or bytes, after any tags. -/
def readKey (data : ByteArray) (pos : Nat) : Option (String × Nat) := do
  match ← readUntagged data pos with
  | (.text (some n), next) =>
    if n ≤ maxKeyLength then (textAt data next n).map (·, next + n) else none
  | (.bytes (some n), next) =>
    if n ≤ maxKeyLength && next + n ≤ data.size then
      -- a byte key names a field only when its bytes are the field's name
      let name := (String.fromUTF8? (data.extract next (next + n))).getD ""
      some (if keys.contains name then name else "", next + n)
    else none
  | _ => none

/-- The text value at a position, after any tags. -/
def readValue (data : ByteArray) (pos : Nat) : Option (String × Nat) := do
  match ← readUntagged data pos with
  | (.text len, next) => readTextBody data len next
  | _ => none

/-- The fields read so far, by key. -/
abbrev Found := List (String × String)

/-- Reads one member into the fields found; a known key may appear once. -/
def readMember (data : ByteArray) (fuel : Nat) (found : Found) (pos : Nat) :
    Option (Found × Nat) := do
  let (key, next) ← readKey data pos
  if keys.contains key then
    guard (!(found.any (·.1 == key)))
    let (value, next) ← readValue data next
    pure (found ++ [(key, value)], next)
  else
    let next ← skipItem data fuel 1 next
    pure (found, next)

/-- Reads the members of a summary map: `count` of them, or up to a break. -/
def readMembers (data : ByteArray) : Nat → Option Nat → Found → Nat → Option (Found × Nat)
  | 0, _, _, _ => none
  | _ + 1, some 0, found, pos => pure (found, pos)
  | fuel + 1, some (n + 1), found, pos => do
    let (found, pos) ← readMember data fuel found pos
    readMembers data fuel (some n) found pos
  | fuel + 1, none, found, pos => do
    match ← readHead data pos with
    | (.stop, next) => pure (found, next)
    | _ =>
      let (found, pos) ← readMember data fuel found pos
      readMembers data fuel none found pos

/-- Reads a summary map at a position. -/
def readCbor (data : ByteArray) (pos : Nat) : Option (PackageSummary × Nat) := do
  let (head, next) ← readUntagged data pos
  let length ← match head with
    | .map len => some len
    | _ => none
  let (found, next) ← readMembers data (data.size + 1) length [] next
  let field (k : String) : Option String := found.lookup k
  pure (⟨← field "display_name", ← field "latest_version", ← field "icon_url",
    ← field "namespace", ← field "identifier"⟩, next)

end PackageSummary

namespace Summaries

open Cbor

/-- The CBOR form of a list of summaries. -/
def encode (summaries : List PackageSummary) : ByteArray :=
  ⟨(writeHead 4 summaries.length ++ summaries.flatMap PackageSummary.writeCbor).toArray⟩

/-- Reads the summaries of an array: `count` of them, or up to a break. -/
def readItems (data : ByteArray) : Nat → Option Nat → List PackageSummary → Nat →
    Option (List PackageSummary)
  | 0, _, _, _ => none
  | _ + 1, some 0, acc, _ => pure acc.reverse
  | fuel + 1, some (n + 1), acc, pos => do
    let (s, pos) ← PackageSummary.readCbor data pos
    readItems data fuel (some n) (s :: acc) pos
  | fuel + 1, none, acc, pos => do
    match ← readHead data pos with
    | (.stop, _) => pure acc.reverse
    | _ =>
      let (s, pos) ← PackageSummary.readCbor data pos
      readItems data fuel none (s :: acc) pos

/-- The summaries a cached value holds. -/
def decode? (data : ByteArray) : Option (List PackageSummary) := do
  let (head, next) ← readUntagged data 0
  match head with
  | .array len => readItems data (data.size + 1) len [] next
  | _ => none

/-- The summaries a cached value holds, or the error of a value that does not decode. -/
def decode (data : ByteArray) : Outcome (List PackageSummary) :=
  match decode? data with
  | some summaries => .ok summaries
  | none => .error (.parse "Invalid cached package summaries: invalid CBOR")

end Summaries

end ChartCatalog
