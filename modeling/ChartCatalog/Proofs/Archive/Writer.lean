import ChartCatalog.Archive.Tar

/-!
# Writing tar archives

A writer for the archives the reader reads. Each member is a header block followed by
its data padded with zeros to whole blocks, and the archive ends with two zero blocks.
Header fields are written as the common tar tools write them: mode 0600, owner and
group 0, time 0, the size in eleven octal digits and the checksum in six, followed by a
zero byte and a space.

A member's path goes where its style puts it: in the header's own name field (POSIX
ustar or GNU format), in a GNU long-name member (`L`) before the header, or in a `path`
record of a PAX extended header (`x`) before the header. A PAX record is
`<length> path=<value>` and a newline, where the length counts the whole record, its
own digits included.
-/

set_option autoImplicit false

namespace ChartCatalog.Tar

/-- The low `width` octal digits of `n`, most significant first. -/
def octalDigits : Nat → Nat → List Char
  | 0, _ => []
  | width + 1, n => octalDigits width (n / 8) ++ [Char.ofNat (48 + n % 8)]

/-- The UTF-8 bytes of a text. -/
def textBytes (cs : List Char) : List UInt8 := cs.flatMap String.utf8EncodeChar

/-- A numeric field of `width` bytes: octal digits, then a zero byte. -/
def numberField (width n : Nat) : List UInt8 := textBytes (octalDigits (width - 1) n) ++ [0]

/-- A field of `width` bytes: the bytes, then zeros. -/
def textField (width : Nat) (bytes : List UInt8) : List UInt8 :=
  bytes ++ List.replicate (width - bytes.length) 0

/-- The header formats the reader knows. -/
inductive Format
  | ustar
  | gnu
  deriving DecidableEq, Repr

/-- The magic and version fields of a format. -/
def Format.magic : Format → List UInt8
  | .ustar => textBytes "ustar".toList ++ [0] ++ textBytes "00".toList
  | .gnu => textBytes "ustar  ".toList ++ [0]

/-- The fields before the checksum: name, mode, owner, group, size and time. -/
def headerFront (name : List UInt8) (size : Nat) : List UInt8 :=
  textField 100 name ++ numberField 8 0o600 ++ numberField 8 0 ++ numberField 8 0 ++
    numberField 12 size ++ numberField 12 0

/-- The fields after the checksum: type flag, link name, magic and version, then zeros
for the owner names, device numbers and path prefix. -/
def headerBack (format : Format) (typeFlag : UInt8) : List UInt8 :=
  typeFlag :: List.replicate 100 0 ++ format.magic ++ List.replicate 247 0

/-- A header block whose checksum field holds `sum`. -/
def headerWith (format : Format) (name : List UInt8) (typeFlag : UInt8) (size : Nat)
    (sum : List UInt8) : List UInt8 :=
  headerFront name size ++ sum ++ headerBack format typeFlag

/-- The sum of some bytes. -/
def byteSum : List UInt8 → Nat
  | [] => 0
  | b :: rest => b.toNat + byteSum rest

/-- A header block with its checksum: the sum of its bytes with the checksum field
counted as eight spaces. -/
def headerBlock (format : Format) (name : List UInt8) (typeFlag : UInt8) (size : Nat) :
    List UInt8 :=
  let sum := byteSum (headerWith format name typeFlag size (List.replicate 8 32))
  headerWith format name typeFlag size (textBytes (octalDigits 6 sum) ++ [0, 32])

/-- Data padded with zeros to whole blocks. -/
def blockData (data : List UInt8) : List UInt8 :=
  data ++ List.replicate ((blockSize - data.length % blockSize) % blockSize) 0

/-- The length of a PAX record whose text after the length field has `n` bytes: the
length counts its own digits. -/
def paxRecordLength (n : Nat) : Nat :=
  let digits := (Nat.toDigits 10 n).length
  if (Nat.toDigits 10 (n + digits)).length = digits then n + digits else n + digits + 1

/-- A PAX record giving a path. -/
def paxPathRecord (path : List UInt8) : List UInt8 :=
  let body := textBytes " path=".toList ++ path ++ [10]
  textBytes (Nat.toDigits 10 (paxRecordLength body.length)) ++ body

/-- Where a member's path is written. -/
inductive Style
  /-- In the header's name field. -/
  | header (format : Format)
  /-- In a GNU long-name member before a GNU header. -/
  | gnuLongName
  /-- In a PAX extended header before a ustar header. -/
  | pax
  deriving DecidableEq, Repr

/-- A member to write: its path, type flag and content, and where its path goes. -/
structure Entry where
  path : String
  typeFlag : UInt8
  content : ByteArray
  style : Style

/-- The header blocks of a member: its own header, after the long-name or extended header
that carries its path when its style asks for one. A header that follows a long-name or
extended header keeps the first hundred bytes of the path in its name field. -/
def Entry.headers (e : Entry) : List UInt8 :=
  let path := textBytes e.path.toList
  match e.style with
  | .header format => headerBlock format path e.typeFlag e.content.size
  | .gnuLongName =>
    headerBlock .gnu (textBytes "././@LongLink".toList) 76 (path.length + 1) ++
      blockData (path ++ [0]) ++ headerBlock .gnu (path.take 100) e.typeFlag e.content.size
  | .pax =>
    headerBlock .ustar (textBytes "PaxHeader".toList) 120 (paxPathRecord path).length ++
      blockData (paxPathRecord path) ++ headerBlock .ustar (path.take 100) e.typeFlag e.content.size

/-- The bytes of one member: its header blocks, then its data padded to whole blocks. -/
def Entry.write (e : Entry) : List UInt8 := e.headers ++ blockData e.content.data.toList

/-- An entry the reader reads back as written: its type flag is not one the reader takes for
a long-name or extended header, and its path fits where its style puts it. A header's name
field holds at most a hundred bytes and ends at the first zero byte; a PAX record ends at
the first newline. -/
def Entry.WellWritten (e : Entry) : Prop :=
  e.typeFlag ≠ 75 ∧ e.typeFlag ≠ 76 ∧ e.typeFlag ≠ 120 ∧
    match e.style with
    | .header _ => e.path.utf8ByteSize ≤ 100 ∧ ∀ c ∈ e.path.toList, c.toNat ≠ 0
    | .gnuLongName => True
    | .pax => ∀ c ∈ e.path.toList, c.toNat ≠ 10

/-- An archive: its members, then two zero blocks. -/
def writeArchive (entries : List Entry) : ByteArray :=
  ⟨(entries.flatMap Entry.write ++ List.replicate (2 * blockSize) 0).toArray⟩

theorem writeArchive_size (entries : List Entry) :
    (writeArchive entries).size = (entries.flatMap Entry.write).length + 2 * blockSize := by
  simp [writeArchive, ByteArray.size]

end ChartCatalog.Tar
