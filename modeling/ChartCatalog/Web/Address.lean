/-!
# IP addresses in URLs

An IPv4 host is one to four dot-separated numbers, each decimal, octal (a leading `0`)
or hexadecimal (a leading `0x`); one trailing dot is allowed. Every number but the last
must be below 256, and the last fills the bytes that are left, so `0x7f.1` is
`127.0.0.1`. A host is read as IPv4 exactly when its last label, the trailing empty one
aside, is a number of one of these forms (`endsInNumber`).

An IPv6 host is eight 16-bit pieces written in hexadecimal, with at most one `::`
standing for a run of zero pieces, and an optional dotted IPv4 tail for the last two.
It is written back in lowercase with the first longest run of two or more zero pieces
compressed to `::`.
-/

set_option autoImplicit false

namespace ChartCatalog.Web

/-- The value of a digit in a radix of at most sixteen. -/
def digitIn (radix : Nat) (c : Char) : Option Nat :=
  let n := c.toNat
  let v :=
    if 48 ≤ n && n ≤ 57 then some (n - 48)
    else if 97 ≤ n && n ≤ 102 then some (n - 87)
    else if 65 ≤ n && n ≤ 70 then some (n - 55)
    else none
  v.bind fun d => if d < radix then some d else none

/-- A number in a radix; `none` when a character is not a digit of it. -/
def readRadix (radix : Nat) (cs : List Char) : Option Nat :=
  cs.foldl (fun acc c => acc.bind fun v => (digitIn radix c).map (radix * v + ·)) (some 0)

/-- One number of an IPv4 host: `none` when it is malformed, otherwise its value, which
may exceed 32 bits. -/
def ipv4Number? (part : List Char) : Option Nat :=
  match part with
  | [] => none
  | '0' :: 'x' :: rest | '0' :: 'X' :: rest => readRadix 16 rest
  | '0' :: rest@(_ :: _) => readRadix 8 rest
  | _ => readRadix 10 part

/-- Whether a host's last label, one trailing empty label aside, is a number. -/
def endsInNumber (host : List Char) : Bool :=
  let labels := (host.splitOn '.').reverse
  let last := match labels with
    | [] :: next :: _ => some next
    | [] :: [] => none
    | l :: _ => some l
    | [] => none
  match last with
  | none => false
  | some [] => false
  | some l => l.all Char.isDigit || (ipv4Number? l).isSome

/-- The 32-bit value of an IPv4 host, or `none` when it is not a valid one. -/
def parseIpv4 (host : List Char) : Option Nat := do
  let parts := host.splitOn '.'
  let parts := if parts.getLast? == some [] then parts.dropLast else parts
  guard (parts.length ≤ 4)
  let numbers ← parts.mapM ipv4Number?
  let last ← numbers.getLast?
  let front := numbers.dropLast
  guard (last < Nat.pow 2 (8 * (4 - front.length)))
  guard (front.all (· < 256))
  let (value, _) := front.foldl (fun (acc, k) n => (acc + n * Nat.pow 2 (8 * (3 - k)), k + 1)) (last, 0)
  pure value

/-- Dotted decimal text of an IPv4 address. -/
def ipv4Text (value : Nat) : String :=
  ".".intercalate ([24, 16, 8, 0].map fun shift => toString (value / Nat.pow 2 shift % 256))

/-- Reads the dotted IPv4 tail of an IPv6 address into two pieces. -/
def ipv6Tail (cs : List Char) : Option (Nat × Nat) := do
  let parts := cs.splitOn '.'
  guard (parts.length == 4)
  let bytes ← parts.mapM fun part => do
    guard (!part.isEmpty && part.all Char.isDigit)
    guard (part.length == 1 || part.head? != some '0')
    let v ← readRadix 10 part
    guard (v ≤ 255)
    pure v
  match bytes with
  | [a, b, c, d] => pure (a * 256 + b, c * 256 + d)
  | _ => none

/-- Reads the hexadecimal pieces of one side of `::`. -/
def ipv6Pieces (cs : List Char) (tailAllowed : Bool) : Option (List Nat) :=
  if cs.isEmpty then some []
  else
    let groups := cs.splitOn ':'
    let rec go : List (List Char) → Option (List Nat)
      | [] => some []
      | [last] =>
        if tailAllowed && last.contains '.' then
          (ipv6Tail last).map fun (x, y) => [x, y]
        else do
          guard (!last.isEmpty && last.length ≤ 4)
          pure [← readRadix 16 last]
      | g :: rest => do
        guard (!g.isEmpty && g.length ≤ 4)
        let v ← readRadix 16 g
        pure (v :: (← go rest))
    go groups

/-- Finds the first `::` in a list of characters. -/
def splitDoubleColon : List Char → Option (List Char × List Char)
  | [] => none
  | ':' :: ':' :: rest => some ([], rest)
  | c :: rest => (splitDoubleColon rest).map fun (before, after) => (c :: before, after)

/-- The eight pieces of an IPv6 address, or `none` when the text is not one. -/
def parseIpv6 (cs : List Char) : Option (List Nat) :=
  match splitDoubleColon cs with
  | some (before, after) => do
    guard (!(splitDoubleColon after).isSome)
    let head ← ipv6Pieces before false
    let tail ← ipv6Pieces after true
    guard (head.length + tail.length ≤ 7)
    pure (head ++ List.replicate (8 - head.length - tail.length) 0 ++ tail)
  | none => do
    let pieces ← ipv6Pieces cs true
    guard (pieces.length == 8)
    pure pieces

/-- The first longest run of at least two zero pieces, as start and length. -/
def longestZeroRun (pieces : List Nat) : Option (Nat × Nat) :=
  let step (acc : Option (Nat × Nat) × Option (Nat × Nat)) (iv : Nat × Nat) :=
    let (best, current) := acc
    let (i, v) := iv
    if v == 0 then
      let current := match current with
        | some (s, l) => some (s, l + 1)
        | none => some (i, 1)
      let best := match best, current with
        | some (bs, bl), some (s, l) => if l > bl then some (s, l) else some (bs, bl)
        | none, c => c
        | b, none => b
      (best, current)
    else (best, none)
  let (best, _) := (pieces.zipIdx.map fun (v, i) => (i, v)).foldl step (none, none)
  best.filter fun (_, l) => l ≥ 2

/-- Lowercase hexadecimal of a piece, without leading zeros. -/
def pieceText (v : Nat) : String :=
  String.ofList (Nat.toDigits 16 v)

/-- The compressed text of an IPv6 address, without brackets. -/
def ipv6Text (pieces : List Nat) : String :=
  match longestZeroRun pieces with
  | some (start, len) =>
    ":".intercalate ((pieces.take start).map pieceText) ++ "::" ++
      ":".intercalate ((pieces.drop (start + len)).map pieceText)
  | none => ":".intercalate (pieces.map pieceText)

end ChartCatalog.Web
