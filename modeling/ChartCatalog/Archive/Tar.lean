import ChartCatalog.Archive.Gzip
import ChartCatalog.Text.Utf8
import ChartCatalog.Text.Blank

/-!
# Reading members out of a tar archive

A tar archive is a sequence of 512-byte header blocks, each followed by the member's
data padded to whole blocks; an all-zero header ends it. Members with long names are
preceded by a GNU long-name member (`L`) or a PAX extended header (`x`) that holds the
name.

The reader pulls bytes from a source and holds it to whole blocks: when the source
ends in the middle of a block, that is an unexpected end of the archive. It reads no
further than it needs, so an archive whose wanted members are all found, or that ends
with a zero block, is read successfully even if the bytes after are damaged. A member
whose data is cut short at a block boundary is read as far as it goes; skipping past
its end is then an error.

Members are matched against the wanted paths ignoring ASCII case, after removing
every leading `./` from the member path. Only regular files count, the first match of
each path wins, and a member declared larger than 16 MiB is passed over. Contents and
paths are read as lossy UTF-8.
-/

set_option autoImplicit false

namespace ChartCatalog.Tar

/-- The size of a tar block. -/
def blockSize : Nat := 512

/-- The most bytes of archive read before giving up. -/
def maxArchiveSize : Nat := 256 * 1024 * 1024

/-- Members declared larger than this are passed over. -/
def maxMemberSize : Nat := 16 * 1024 * 1024

/-- An archive fault. -/
def invalid (why : String) : CatalogError := .artifact ("Invalid chart archive: " ++ why)

/-- The source ends inside a block. -/
def endsMidBlock (pos : Nat) : CatalogError :=
  .unexpectedEof ("archive ends mid-block after " ++ toString pos ++ " bytes")

/-- More of the archive than the limit would be read. -/
def archiveTooLarge : CatalogError :=
  invalid ("archive exceeds " ++ toString maxArchiveSize ++ " bytes uncompressed")

/-- A reader of a source, at a position. -/
structure Reader where
  src : Source
  pos : Nat

/-- Reads up to `n` bytes. At the end of the source: the source's own failure, or an
unexpected end when the position is inside a block, or no bytes. -/
def Reader.read (r : Reader) (n : Nat) : Except CatalogError (ByteArray × Reader) :=
  if n == 0 then pure (ByteArray.empty, r)
  else
    let avail := r.src.data.size - r.pos
    if avail == 0 then
      match r.src.ending with
      | some e => throw e
      | none =>
        if r.pos % blockSize != 0 then throw (endsMidBlock r.pos)
        else pure (ByteArray.empty, r)
    else
      let pos := r.pos + min n avail
      if pos > maxArchiveSize then throw archiveTooLarge
      else pure (r.src.data.extract r.pos pos, { r with pos := pos })

/-- Reads up to `n` bytes, stopping early only at a clean end of the source. -/
def Reader.readUpTo (r : Reader) (n : Nat) : Except CatalogError (ByteArray × Reader) := do
  let rec go : Nat → Reader → ByteArray → Except CatalogError (ByteArray × Reader)
    | 0, r, acc => pure (acc, r)
    | fuel + 1, r, acc => do
      if acc.size ≥ n then return (acc, r)
      let (chunk, r) ← r.read (n - acc.size)
      if chunk.size == 0 then pure (acc, r) else go fuel r (acc ++ chunk)
  go (r.src.data.size - r.pos + 2) r ByteArray.empty

/-- Reads a whole block; none at a clean end before its first byte. -/
def Reader.readBlock (r : Reader) : Except CatalogError (Option (ByteArray × Reader)) := do
  let (block, r) ← r.readUpTo blockSize
  if block.size == 0 then pure none
  else if block.size < blockSize then throw (invalid "failed to read entire block")
  else pure (some (block, r))

/-- Skips `n` bytes; the source ending first is an error. -/
def Reader.skip (r : Reader) (n : Nat) : Except CatalogError Reader := do
  let (got, r) ← r.readUpTo n
  if got.size < n then throw (invalid "unexpected EOF during skip") else pure r

/-- The bytes of a field up to its first zero byte. -/
def untilZero (field : ByteArray) : ByteArray :=
  match field.toList.findIdx? (· == 0) with
  | some i => field.extract 0 i
  | none => field

/-- The value of unsigned digits in a radix, with an optional leading `+`; none when
empty, on another character, or at or above 2^64. -/
def parseRadix (radix : Nat) (text : String) : Option Nat :=
  let cs := text.toList
  let cs := match cs with
    | ['+'] => ['+']
    | '+' :: rest => rest
    | _ => cs
  if cs.isEmpty then none
  else
    cs.foldlM (fun acc c =>
      let d := if '0' ≤ c && c ≤ '9' then c.toNat - 48
        else if 'a' ≤ c && c ≤ 'z' then c.toNat - 87
        else if 'A' ≤ c && c ≤ 'Z' then c.toNat - 55
        else radix
      if d < radix && acc * radix + d < Nat.pow 2 64 then some (acc * radix + d) else none) 0

/-- An octal field: text up to the first zero byte, blanks trimmed. -/
def octalField (field : ByteArray) : Except CatalogError Nat :=
  match String.fromUTF8? (untilZero field) with
  | none => throw (invalid "numeric field did not have utf-8 text")
  | some text =>
    match parseRadix 8 (Text.trim text) with
    | some n => pure n
    | none => throw (invalid ("numeric field was not a number: " ++ text))

/-- A numeric field: octal text, or with the high bit of its first byte set, a binary
number in its last eight bytes (for an eight-byte field, its first byte less that
bit). -/
def numericField (field : ByteArray) : Except CatalogError Nat :=
  if field.get! 0 &&& 0x80 != 0 then
    if field.size == 8 then
      pure ((List.range 7).foldl (fun acc k => acc * 256 + (field.get! (k + 1)).toNat)
        ((field.get! 0 ^^^ 0x80).toNat))
    else
      pure ((List.range 8).foldl (fun acc k => acc * 256 + (field.get! (field.size - 8 + k)).toNat) 0)
  else octalField field

/-- A tar header block. -/
structure Header where
  block : ByteArray

namespace Header

/-- A field of the header. -/
def field (h : Header) (offset length : Nat) : ByteArray := h.block.extract offset (offset + length)

/-- The type flag. -/
def typeFlag (h : Header) : UInt8 := h.block.get! 156

/-- Whether the header is in the POSIX ustar format. -/
def isUstar (h : Header) : Bool :=
  h.field 257 6 == "ustar\x00".toUTF8 && h.field 263 2 == "00".toUTF8

/-- Whether the header is in the GNU format. -/
def isGnu (h : Header) : Bool :=
  h.field 257 6 == "ustar ".toUTF8 && h.field 263 2 == " \x00".toUTF8

/-- Whether the member is a regular file. -/
def isFile (h : Header) : Bool := h.typeFlag == 0 || h.typeFlag == 48

/-- The path the header itself gives: a ustar header joins its prefix and name. -/
def pathBytes (h : Header) : ByteArray :=
  let name := untilZero (h.field 0 100)
  if h.isUstar then
    let pfx := untilZero (h.field 345 155)
    if pfx.size == 0 then name else pfx ++ "/".toUTF8 ++ name
  else name

/-- The checksum of the block: all bytes, the checksum field counted as spaces. -/
def blockSum (h : Header) : Nat :=
  (List.range 512).foldl (fun acc i =>
    if 148 ≤ i && i < 156 then acc else acc + (h.block.get! i).toNat) 0 + 8 * 32

/-- Whether the block is all zeros. -/
def isZero (h : Header) : Bool := h.block.data.all (· == 0)

end Header

/-- The records of a PAX extended header: lines `<length> <key>=<value>`, where the
length counts the whole line with its newline. A record that does not fit this shape
is malformed; an empty line ends the list. -/
def paxRecords (pax : ByteArray) : List (Option (ByteArray × ByteArray)) :=
  let lines := (pax.toList.splitOn 10).takeWhile (!·.isEmpty)
  lines.map fun line =>
    match line.findIdx? (· == 32) with
    | none => none
    | some sp =>
      let reported := (String.fromUTF8? (ByteArray.mk (line.take sp).toArray)).bind (parseRadix 10)
      if reported != some (line.length + 1) then none
      else
        let kv := line.drop (sp + 1)
        match kv.findIdx? (· == 61) with
        | none => none
        | some eq => some (ByteArray.mk (kv.take eq).toArray, ByteArray.mk (kv.drop (eq + 1)).toArray)

/-- The path a PAX header gives, skipping malformed records. -/
def paxPath (pax : ByteArray) : Option ByteArray :=
  ((paxRecords pax).filterMap id).find? (·.1 == "path".toUTF8) |>.map (·.2)

/-- The size a PAX header gives; a malformed record before it hides it. -/
def paxSize (pax : ByteArray) : Option Nat :=
  let rec go : List (Option (ByteArray × ByteArray)) → Option Nat
    | [] => none
    | none :: _ => none
    | some (k, v) :: rest =>
      match String.fromUTF8? k with
      | some "size" => (String.fromUTF8? v).bind (parseRadix 10)
      | _ => go rest
  go (paxRecords pax)

/-- A member: its header, data size, long name and extended header. -/
structure Member where
  header : Header
  size : Nat
  longName : Option ByteArray
  pax : Option ByteArray

/-- The path of a member: the long name without its final zero byte, or the PAX path,
or the header's own path. -/
def Member.pathBytes (m : Member) : ByteArray :=
  match m.longName with
  | some name => if name.size > 0 && name.get! (name.size - 1) == 0 then name.extract 0 (name.size - 1) else name
  | none =>
    match m.pax.bind paxPath with
    | some p => p
    | none => m.header.pathBytes

/-- Walking the archive: the reader and where the next header starts. -/
structure Walk where
  reader : Reader
  next : Nat

/-- The limit of a 64-bit size. -/
def sizeLimit : Nat := Nat.pow 2 64

/-- Reads a header block that starts at `next`: none for a zero block, else the header,
the size of its member's data and where the next header starts, once the checksum and
the size are checked. -/
def readHeader (block : ByteArray) (next : Nat) (pax : Option ByteArray) :
    Except CatalogError (Option (Header × Nat × Nat)) := do
  let h : Header := ⟨block⟩
  if h.isZero then return none
  let next := next + blockSize
  let stored := (← octalField (h.field 148 8)) % Nat.pow 2 32
  if h.blockSum != stored then throw (invalid "archive header checksum mismatch")
  let declared ← numericField (h.field 124 12)
  let size := if declared == 0 then (pax.bind paxSize).getD 0 else declared
  if size + 511 ≥ sizeLimit then throw (invalid "size overflow")
  let padded := (size + 511) / blockSize * blockSize
  if next + padded ≥ sizeLimit then throw (invalid "size overflow")
  pure (some (h, size, next + padded))

/-- Reads the next header and its data size, skipping what is left of the member before. -/
def Walk.nextRaw (w : Walk) (pax : Option ByteArray) :
    Except CatalogError (Option (Header × Nat × Walk)) := do
  let r ← w.reader.skip (w.next - w.reader.pos)
  match ← r.readBlock with
  | none => pure none
  | some (block, r) =>
    match ← readHeader block w.next pax with
    | none => pure none
    | some (h, size, next) => pure (some (h, size, { reader := r, next := next }))

/-- Reads the next member, gathering the long-name and extended headers before it. -/
def Walk.nextMember (w : Walk) : Except CatalogError (Option (Member × Walk)) := do
  let rec go : Nat → Walk → Option ByteArray → Option ByteArray → Option ByteArray → Bool →
      Except CatalogError (Option (Member × Walk))
    | 0, _, _, _, _, _ => throw (invalid "too many headers")
    | fuel + 1, w, longName, longLink, pax, pending => do
      match ← w.nextRaw pax with
      | none =>
        if pending then throw (invalid "members found describing a future member but no future member found")
        else pure none
      | some (h, size, w) =>
        let known := h.isGnu || h.isUstar
        if known && h.typeFlag == 76 then
          if longName.isSome then throw (invalid "two long name entries describing the same member")
          let (name, r) ← w.reader.readUpTo size
          go fuel { w with reader := r } (some name) longLink pax true
        else if known && h.typeFlag == 75 then
          if longLink.isSome then throw (invalid "two long name entries describing the same member")
          let (link, r) ← w.reader.readUpTo size
          go fuel { w with reader := r } longName (some link) pax true
        else if known && h.typeFlag == 120 then
          if pax.isSome then throw (invalid "two pax extensions entries describing the same member")
          let (ext, r) ← w.reader.readUpTo size
          go fuel { w with reader := r } longName longLink (some ext) true
        else pure (some (⟨h, size, longName, pax⟩, w))
  go (w.reader.src.data.size / blockSize + 2) w none none none false

/-- Removes every leading `./`. -/
def stripDotSlash (path : String) : String :=
  let rec go : Nat → List Char → List Char
    | 0, cs => cs
    | fuel + 1, cs => match cs with
      | '.' :: '/' :: rest => go fuel rest
      | _ => cs
  String.ofList (go path.length path.toList)

/-- Whether two texts are equal ignoring ASCII case. -/
def equalIgnoringAsciiCase (a b : String) : Bool :=
  let lower (c : Char) : Char := if 'A' ≤ c && c ≤ 'Z' then Char.ofNat (c.toNat + 32) else c
  a.length == b.length && (a.toList.zip b.toList).all fun (x, y) => lower x == lower y

/-- Extracts the wanted members: for each key, the content of the first regular member
whose path matches the key's path, or the empty text when there is none. -/
def extract (wanted : List (String × String)) (src : Source) :
    Except CatalogError (List (String × String)) := do
  let rec go : Nat → Walk → List (String × String) → Except CatalogError (List (String × String))
    | 0, _, found => pure found
    | fuel + 1, w, found => do
      match ← w.nextMember with
      | none => pure found
      | some (m, w) =>
        if !m.header.isFile then go fuel w found
        else
          let path := stripDotSlash (Text.decodeLossy m.pathBytes)
          let keys := wanted.filter fun (key, want) =>
            equalIgnoringAsciiCase want path && !(found.any (·.1 == key))
          if keys.isEmpty then go fuel w found
          else
            let size ← numericField (m.header.field 124 12)
            if size > maxMemberSize then go fuel w found
            else
              let (content, r) ← w.reader.readUpTo m.size
              let w := { w with reader := r }
              let text := Text.decodeLossy content
              let found := found ++ keys.map fun (key, _) => (key, text)
              if found.length == wanted.length then pure found else go fuel w found
  let found ← go (src.data.size / blockSize + 2) ⟨⟨src, 0⟩, 0⟩ []
  pure (wanted.map fun (key, _) => (key, ((found.lookup key).getD "")))

/-- The archive members read for a chart, by key: its `Chart.yaml`, `values.yaml`,
`README.md` and `values.schema.json`, under the chart's directory. -/
def chartMemberPaths (chartName : String) : List (String × String) :=
  [("chart", chartName ++ "/Chart.yaml"), ("readme", chartName ++ "/README.md"),
   ("schema", chartName ++ "/values.schema.json"), ("values", chartName ++ "/values.yaml")]

end ChartCatalog.Tar
