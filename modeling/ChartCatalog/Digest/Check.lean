import ChartCatalog.Digest.Sha256
import ChartCatalog.Text.Blank

/-!
# Checking downloads against digests

An index names the SHA-256 digest of each chart archive. A downloaded archive matches
its digest when the digest, trimmed, is empty (many repositories leave it out), or when
it equals the hexadecimal hash of the bytes up to ASCII case, after one lowercase
`sha256:` label is removed.
-/

set_option autoImplicit false

namespace ChartCatalog.Digest

/-- The lowercase hexadecimal SHA-256 of a byte string. -/
def sha256 (data : ByteArray) : String := Sha256.hexDigest data

/-- ASCII case folding of one character. -/
def asciiLower (c : Char) : Char := if 'A' ≤ c && c ≤ 'Z' then Char.ofNat (c.toNat + 32) else c

/-- Two texts are equal up to ASCII case. -/
def equalIgnoringAsciiCase (a b : String) : Bool :=
  a.toList.map asciiLower == b.toList.map asciiLower

/-- Whether downloaded bytes match a digest given in an index. -/
def digestMatches (data : ByteArray) (expected : String) : Bool :=
  let expected := Text.trim expected
  if expected.isEmpty then true
  else
    let hex := match expected.toList with
      | 's' :: 'h' :: 'a' :: '2' :: '5' :: '6' :: ':' :: rest => String.ofList rest
      | _ => expected
    equalIgnoringAsciiCase (sha256 data) hex

/-- An empty digest matches every download. -/
theorem digestMatches_empty (data : ByteArray) : digestMatches data "" = true := by
  simp [digestMatches, Text.trim, Text.trimChars, Text.dropBlanks]

end ChartCatalog.Digest
