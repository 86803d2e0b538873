/-!
# Hexadecimal text

Digests are written as lowercase hexadecimal, two digits a byte, high nibble first.
-/

set_option autoImplicit false

namespace ChartCatalog.Text

/-- The lowercase hexadecimal digit of a value below sixteen. -/
def hexDigit (n : Nat) : Char :=
  if n < 10 then Char.ofNat (48 + n) else Char.ofNat (87 + n)

/-- The two digits of one byte, high nibble first. -/
def hexByte (b : UInt8) : List Char :=
  [hexDigit (b.toNat / 16), hexDigit (b.toNat % 16)]

/-- Lowercase hexadecimal text of a byte string. -/
def hexOfBytes (bytes : ByteArray) : String :=
  String.ofList (bytes.toList.flatMap hexByte)

/-- Two digits stand for each byte. -/
theorem hexOfBytes_length (bytes : ByteArray) :
    (bytes.toList.flatMap hexByte).length = 2 * bytes.toList.length := by
  induction bytes.toList with
  | nil => rfl
  | cons b rest ih => simp [List.flatMap_cons, hexByte, ih]; omega

end ChartCatalog.Text
