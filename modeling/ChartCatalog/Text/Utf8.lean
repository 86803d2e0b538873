/-!
# Lossy UTF-8

Archive members and member names are bytes that are usually, but not always, UTF-8.
They are read as text with every ill-formed part replaced by U+FFFD.

An ill-formed part is a *maximal subpart*: a lead byte followed by as many
continuation bytes as could still begin a well-formed sequence. This is the rule the
Unicode standard recommends, so `F0 9F 98` followed by a space is one replacement
character and a space, while a lone `80` is one replacement character.
-/

set_option autoImplicit false

namespace ChartCatalog.Text

/-- The replacement character U+FFFD. -/
def replacementChar : Char := Char.ofNat 0xFFFD

/-- Whether a byte is a continuation byte, `10xxxxxx`. -/
def isContinuation (b : UInt8) : Bool := b &&& 0xC0 == 0x80

/-- The sequence width a lead byte announces and the range its second byte must lie
in; none for a byte that cannot lead. -/
def leadShape (b : UInt8) : Option (Nat × UInt8 × UInt8) :=
  if 0xC2 ≤ b && b ≤ 0xDF then some (2, 0x80, 0xBF)
  else if b == 0xE0 then some (3, 0xA0, 0xBF)
  else if b == 0xED then some (3, 0x80, 0x9F)
  else if 0xE1 ≤ b && b ≤ 0xEF then some (3, 0x80, 0xBF)
  else if b == 0xF0 then some (4, 0x90, 0xBF)
  else if b == 0xF4 then some (4, 0x80, 0x8F)
  else if 0xF1 ≤ b && b ≤ 0xF3 then some (4, 0x80, 0xBF)
  else none

/-- How many bytes from position `i` form one well-formed sequence (`ok = true`), or
one maximal ill-formed subpart (`ok = false`). Never zero inside the input. -/
def sequenceAt (bytes : ByteArray) (i : Nat) : Bool × Nat :=
  let b := bytes.get! i
  if b < 0x80 then (true, 1)
  else
    match leadShape b with
    | none => (false, 1)
    | some (width, lo, hi) =>
      let second := if i + 1 < bytes.size then some (bytes.get! (i + 1)) else none
      match second with
      | some s =>
        if lo ≤ s && s ≤ hi then
          let rest := (List.range (width - 2)).map fun k =>
            if i + 2 + k < bytes.size then isContinuation (bytes.get! (i + 2 + k)) else false
          let good := (rest.takeWhile id).length
          if good == width - 2 then (true, width) else (false, 2 + good)
        else (false, 1)
      | none => (false, 1)

/-- The code point of a well-formed sequence of `width` bytes at position `i`. -/
def codePointAt (bytes : ByteArray) (i width : Nat) : Nat :=
  let b0 := (bytes.get! i).toNat
  let cont (k : Nat) : Nat := (bytes.get! (i + k)).toNat % 64
  match width with
  | 1 => b0
  | 2 => (b0 % 32) * 64 + cont 1
  | 3 => (b0 % 16) * 4096 + cont 1 * 64 + cont 2
  | _ => (b0 % 8) * 262144 + cont 1 * 4096 + cont 2 * 64 + cont 3

/-- The text of a byte string, ill-formed parts replaced by U+FFFD. -/
def decodeLossy (bytes : ByteArray) : String :=
  let rec go : Nat → Nat → String → String
    | 0, _, acc => acc
    | fuel + 1, i, acc =>
      if i < bytes.size then
        let (ok, n) := sequenceAt bytes i
        let c := if ok then Char.ofNat (codePointAt bytes i n) else replacementChar
        go fuel (i + max n 1) (acc.push c)
      else acc
  go bytes.size 0 ""

/-- Well-formed input reads back unchanged: ASCII bytes are their own characters. -/
theorem sequenceAt_ascii (bytes : ByteArray) (i : Nat) (h : bytes.get! i < 0x80) :
    sequenceAt bytes i = (true, 1) := by
  simp [sequenceAt, h]

end ChartCatalog.Text
