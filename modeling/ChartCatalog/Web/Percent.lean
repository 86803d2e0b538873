/-!
# Percent-encoding

A character outside an encode set is written as it is; a character inside it is written
as its UTF-8 bytes, each as `%` and two uppercase hexadecimal digits. The sets grow one
from another as the URL Standard lists them: every set holds the controls, the delete
character and all non-ASCII characters; the fragment set adds the space, `"`, `<`, `>`
and the backquote; the query set adds the space, `"`, `#`, `<` and `>`; the special
query set adds the apostrophe to it; the path set adds `?`, the backquote, `{` and `}`
to the query set; and the userinfo set adds `/ : ; = @ [ \ ] ^ |` to the path set.

Decoding turns each `%` followed by two hexadecimal digits into the byte they name and
leaves every other byte alone.
-/

set_option autoImplicit false

namespace ChartCatalog.Web

/-- The sets of characters that a part of a URL percent-encodes. -/
inductive EncodeSet where
  | controls
  | fragment
  | query
  | specialQuery
  | path
  | userinfo
  deriving DecidableEq, Repr

/-- Codes that every set percent-encodes: controls, delete and all non-ASCII. -/
def isControlCode (n : Nat) : Bool := n < 0x20 || n ≥ 0x7F

/-- Codes of the query set. -/
def isQueryCode (n : Nat) : Bool :=
  isControlCode n || n == 0x20 || n == 0x22 || n == 0x23 || n == 0x3C || n == 0x3E

/-- Codes of the path set. -/
def isPathCode (n : Nat) : Bool :=
  isQueryCode n || n == 0x3F || n == 0x60 || n == 0x7B || n == 0x7D

/-- Whether a code is percent-encoded in a set. -/
def EncodeSet.contains : EncodeSet → Nat → Bool
  | .controls, n => isControlCode n
  | .fragment, n => isControlCode n || n == 0x20 || n == 0x22 || n == 0x3C || n == 0x3E ||
      n == 0x60
  | .query, n => isQueryCode n
  | .specialQuery, n => isQueryCode n || n == 0x27
  | .path, n => isPathCode n
  | .userinfo, n => isPathCode n || n == 0x2F || n == 0x3A || n == 0x3B || n == 0x3D ||
      n == 0x40 || (0x5B ≤ n && n ≤ 0x5E) || n == 0x7C

/-- An uppercase hexadecimal digit. -/
def upperHexDigit (n : Nat) : Char :=
  if n < 10 then Char.ofNat (48 + n) else Char.ofNat (55 + n)

/-- A byte written as `%XX`. -/
def percentByte (b : UInt8) : List Char :=
  ['%', upperHexDigit (b.toNat / 16), upperHexDigit (b.toNat % 16)]

/-- One character, percent-encoded when the set holds it. -/
def encodeChar (set : EncodeSet) (c : Char) : List Char :=
  if set.contains c.toNat then (String.utf8EncodeChar c).flatMap percentByte else [c]

/-- Characters, each percent-encoded when the set holds it. -/
def encodeChars (set : EncodeSet) (cs : List Char) : List Char := cs.flatMap (encodeChar set)

/-- A hexadecimal digit's value. -/
def hexDigitValue? (b : UInt8) : Option Nat :=
  let n := b.toNat
  if 48 ≤ n && n ≤ 57 then some (n - 48)
  else if 65 ≤ n && n ≤ 70 then some (n - 55)
  else if 97 ≤ n && n ≤ 102 then some (n - 87)
  else none

/-- Bytes with every `%XX` decoded, after those already decoded. -/
def decodeBytes (decoded : Array UInt8) : List UInt8 → Array UInt8
  | [] => decoded
  | 0x25 :: h :: l :: rest =>
    match hexDigitValue? h, hexDigitValue? l with
    | some x, some y => decodeBytes (decoded.push (UInt8.ofNat (16 * x + y))) rest
    | _, _ => decodeBytes (decoded.push 0x25) (h :: l :: rest)
  | b :: rest => decodeBytes (decoded.push b) rest

/-- The bytes a percent-encoded text stands for. -/
def percentDecode (s : String) : ByteArray := ⟨decodeBytes #[] s.toUTF8.toList⟩

/-- A character outside every set stays as it is. -/
theorem encodeChar_letter (set : EncodeSet) (c : Char) (h : set.contains c.toNat = false) :
    encodeChar set c = [c] := by
  simp [encodeChar, h]

end ChartCatalog.Web
