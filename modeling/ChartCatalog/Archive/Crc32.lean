/-!
# CRC-32

The checksum of gzip members and PNG chunks: the reflected CRC with polynomial
`0xEDB88320`, initial value and final complement all ones.
-/

set_option autoImplicit false

namespace ChartCatalog.Crc32

/-- The table entry of one byte value: eight shift-and-reduce steps. -/
def entry (n : Nat) : UInt32 := Id.run do
  let mut c : UInt32 := UInt32.ofNat n
  for _ in [0:8] do
    c := if c &&& 1 == 1 then (0xEDB88320 : UInt32) ^^^ (c >>> 1) else c >>> 1
  return c

/-- The table of all 256 byte values. -/
def table : Array UInt32 := (Array.range 256).map entry

/-- Continues a running checksum (without its final complement) over more bytes. -/
def update (crc : UInt32) (bytes : ByteArray) : UInt32 :=
  bytes.foldl (fun c b => table[((c ^^^ b.toUInt32) &&& 0xFF).toNat]! ^^^ (c >>> 8)) crc

/-- The CRC-32 of a byte string. -/
def checksum (bytes : ByteArray) : UInt32 := update 0xFFFFFFFF bytes ^^^ 0xFFFFFFFF

end ChartCatalog.Crc32
