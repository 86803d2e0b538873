import ChartCatalog.Archive.Inflate
import ChartCatalog.Archive.Crc32
import ChartCatalog.Error

/-!
# Gzip streams

A gzip member (RFC 1952) is a header, a DEFLATE stream and a trailer holding the
CRC-32 and the length of the data. A reader that pulls bytes from a gzip stream sees
the decoded bytes and then either a clean end or a failure, and the failure shows only
when the reader asks for bytes past the ones before it. So decoding gives a *source*:
the bytes that can be read, and how reading ends after them.

How a member fails:
* a header cut short, or a trailer cut short: an unexpected end of file;
* a header that is not gzip, or a checksum that does not match: invalid data;
* a DEFLATE stream cut short: everything decoded is readable, then an unexpected end;
* a corrupt DEFLATE stream: the decoder works through its 32 KiB window one window
  at a time and fails on the window where the fault lies, so only the windows before
  it are readable.

Bytes after the member are ignored.
-/

set_option autoImplicit false

namespace ChartCatalog

/-- Bytes to be read in order, and how reading ends after them: cleanly, or with an
error. -/
structure Source where
  data : ByteArray
  ending : Option CatalogError

namespace Gzip

/-- The error of a stream cut short. -/
def endOfFile : CatalogError := .unexpectedEof "unexpected end of file"

/-- The error of data that breaks the format. -/
def invalid (why : String) : CatalogError := .artifact ("Invalid chart archive: " ++ why)

/-- The header flags. -/
def flagHeaderCrc : UInt8 := 2
/-- Extra field present. -/
def flagExtra : UInt8 := 4
/-- File name present. -/
def flagName : UInt8 := 8
/-- Comment present. -/
def flagComment : UInt8 := 16

/-- The position after a zero-terminated field starting at `i`, if it ends. -/
def afterZero (data : ByteArray) (i : Nat) : Option Nat :=
  let rec go : Nat → Nat → Option Nat
    | 0, _ => none
    | fuel + 1, j =>
      if j < data.size then (if data.get! j == 0 then some (j + 1) else go fuel (j + 1)) else none
  go (data.size + 1) i

/-- The position where the DEFLATE stream of a member starts. -/
def bodyStart (data : ByteArray) : Except CatalogError Nat := do
  if data.size < 10 then throw endOfFile
  if data.get! 0 != 0x1f || data.get! 1 != 0x8b || data.get! 2 != 8 then
    throw (invalid "invalid gzip header")
  let flags := data.get! 3
  let mut i := 10
  if flags &&& flagExtra != 0 then
    if data.size < i + 2 then throw endOfFile
    let xlen := (data.get! i).toNat + 256 * (data.get! (i + 1)).toNat
    i := i + 2 + xlen
    if data.size < i then throw endOfFile
  if flags &&& flagName != 0 then
    match afterZero data i with
    | some j => i := j
    | none => throw endOfFile
  if flags &&& flagComment != 0 then
    match afterZero data i with
    | some j => i := j
    | none => throw endOfFile
  if flags &&& flagHeaderCrc != 0 then
    if data.size < i + 2 then throw endOfFile
    let stored := (data.get! i).toNat + 256 * (data.get! (i + 1)).toNat
    if stored != (Crc32.checksum (data.extract 0 i)).toNat % 65536 then
      throw (invalid "corrupt gzip stream does not have a matching checksum")
    i := i + 2
  return i

/-- A little-endian 32-bit number. -/
def word32 (data : ByteArray) (i : Nat) : Nat :=
  (data.get! i).toNat + 256 * (data.get! (i + 1)).toNat + 65536 * (data.get! (i + 2)).toNat +
    16777216 * (data.get! (i + 3)).toNat

/-- The size of the decoder window. -/
def window : Nat := 32768

/-- The source of a gzip member. -/
def source (data : ByteArray) : Source :=
  match bodyStart data with
  | .error e => ⟨ByteArray.empty, some e⟩
  | .ok start =>
    let r := Inflate.inflate false data start
    match r.status with
    | .error .truncated => ⟨r.output, some (.unexpectedEof "incomplete deflate stream")⟩
    | .error .corrupt =>
      ⟨r.output.extract 0 (r.output.size / window * window), some (invalid "corrupt deflate stream")⟩
    | .ok after =>
      if data.size < after + 8 then ⟨r.output, some endOfFile⟩
      else if word32 data after != (Crc32.checksum r.output).toNat ||
          word32 data (after + 4) != r.output.size % Nat.pow 2 32 then
        ⟨r.output, some (invalid "corrupt gzip stream does not have a matching checksum")⟩
      else ⟨r.output, none⟩

end Gzip

end ChartCatalog
