/-!
# Base64

The standard alphabet of RFC 4648 (`A–Z`, `a–z`, `0–9`, `+`, `/`) with `=` padding.
Writing turns each three bytes into four characters and pads the last group to four.
Reading accepts exactly the canonical text: whole groups of four, at most two pads and
only at the end, and no stray bits below the last character of a padded group.

Both directions walk the input once with an accumulator, so that long inputs run in
constant stack.
-/

set_option autoImplicit false

namespace ChartCatalog.Base64

/-- The character of a six-bit value. -/
def encodeDigit (n : Nat) : Char :=
  if n < 26 then Char.ofNat (65 + n)
  else if n < 52 then Char.ofNat (71 + n)
  else if n < 62 then Char.ofNat (n - 4)
  else if n == 62 then '+' else '/'

/-- The six-bit value of an alphabet character. -/
def decodeDigit? (c : Char) : Option Nat :=
  let n := c.toNat
  if 65 ≤ n && n ≤ 90 then some (n - 65)
  else if 97 ≤ n && n ≤ 122 then some (n - 71)
  else if 48 ≤ n && n ≤ 57 then some (n + 4)
  else if c == '+' then some 62
  else if c == '/' then some 63
  else none

/-- Four characters for a group of one to three bytes, padded with `=`. -/
def encodeGroup : List UInt8 → List Char
  | [a] =>
    let n := a.toNat * 65536
    [encodeDigit (n / 262144), encodeDigit (n / 4096 % 64), '=', '=']
  | [a, b] =>
    let n := a.toNat * 65536 + b.toNat * 256
    [encodeDigit (n / 262144), encodeDigit (n / 4096 % 64), encodeDigit (n / 64 % 64), '=']
  | [a, b, c] =>
    let n := a.toNat * 65536 + b.toNat * 256 + c.toNat
    [encodeDigit (n / 262144), encodeDigit (n / 4096 % 64), encodeDigit (n / 64 % 64),
      encodeDigit (n % 64)]
  | _ => []

/-- The characters of a byte list, three bytes at a time, after those already written. -/
def encodeInto (written : Array Char) : List UInt8 → Array Char
  | a :: b :: c :: rest => encodeInto (written ++ (encodeGroup [a, b, c]).toArray) rest
  | bytes => written ++ (encodeGroup bytes).toArray

/-- The padded base64 text of a byte string. -/
def encode (bytes : ByteArray) : String := String.ofList (encodeInto #[] bytes.toList).toList

/-- The bytes of one group of four characters; only the last group may be padded. -/
def decodeGroup? (last : Bool) : List Char → Option (List UInt8)
  | [a, b, '=', '='] => do
    guard last
    let x ← decodeDigit? a
    let y ← decodeDigit? b
    guard (y % 16 == 0)
    pure [UInt8.ofNat (x * 4 + y / 16)]
  | [a, b, c, '='] => do
    guard last
    let x ← decodeDigit? a
    let y ← decodeDigit? b
    let z ← decodeDigit? c
    guard (z % 4 == 0)
    let n := x * 4096 + y * 64 + z
    pure [UInt8.ofNat (n / 1024), UInt8.ofNat (n / 4 % 256)]
  | [a, b, c, d] => do
    let n := (← decodeDigit? a) * 262144 + (← decodeDigit? b) * 4096 +
      (← decodeDigit? c) * 64 + (← decodeDigit? d)
    pure [UInt8.ofNat (n / 65536), UInt8.ofNat (n / 256 % 256), UInt8.ofNat (n % 256)]
  | _ => none

/-- The bytes of a list of characters, four at a time, after those already read. -/
def decodeInto? (read : Array UInt8) : List Char → Option (Array UInt8)
  | [] => some read
  | a :: b :: c :: d :: rest =>
    match decodeGroup? rest.isEmpty [a, b, c, d] with
    | some group => decodeInto? (read ++ group.toArray) rest
    | none => none
  | _ => none

/-- The bytes of canonical base64 text, or `none` for any other text. -/
def decode? (text : String) : Option ByteArray :=
  (decodeInto? #[] text.toList).map ByteArray.mk

/-- A group of one byte is one group of four characters. -/
theorem encodeGroup_single (a : UInt8) : (encodeGroup [a]).length = 4 := rfl

end ChartCatalog.Base64
