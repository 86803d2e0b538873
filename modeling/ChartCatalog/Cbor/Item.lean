/-!
# CBOR items

The Concise Binary Object Representation (RFC 8949): every item starts with a head
byte whose top three bits give its major type and whose low five bits give a small
argument, or say that 1, 2, 4 or 8 bytes of argument follow (24 to 27), or that a
string or container has indefinite length (31). Strings and containers of indefinite
length run until the break byte `0xff`; an indefinite string is a run of definite
chunks of its own type.

Writing always uses the shortest head. Reading accepts any head, skips tags, and can
skip a whole item of any type; text must be valid UTF-8, and simple values other than
`false`, `true`, `null` and `undefined` are refused. Containers may nest at most
`maxDepth` deep.
-/

set_option autoImplicit false

namespace ChartCatalog.Cbor

/-- The head of an item: its type and argument. `none` lengths are indefinite. -/
inductive Head where
  | unsigned (value : Nat)
  | negative (value : Nat)
  | bytes (length : Option Nat)
  | text (length : Option Nat)
  | array (length : Option Nat)
  | map (length : Option Nat)
  | tag (number : Nat)
  | simple (value : Nat)
  | float
  | stop
  deriving DecidableEq, Repr, Inhabited

/-- How deep containers may nest. -/
def maxDepth : Nat := 256

/-! ## Writing -/

/-- The big-endian bytes of a number, `count` of them. -/
def bigEndian (count value : Nat) : List UInt8 :=
  (List.range count).reverse.map fun i => (value / Nat.pow 256 i % 256).toUInt8

/-- The shortest head of a major type and argument. -/
def writeHead (major value : Nat) : List UInt8 :=
  let first (low : Nat) : UInt8 := (major * 32 + low).toUInt8
  if value < 24 then [first value]
  else if value < 256 then first 24 :: bigEndian 1 value
  else if value < 65536 then first 25 :: bigEndian 2 value
  else if value < 4294967296 then first 26 :: bigEndian 4 value
  else first 27 :: bigEndian 8 value

/-- A text item of definite length. -/
def writeText (s : String) : List UInt8 :=
  writeHead 3 s.utf8ByteSize ++ s.toUTF8.toList

/-! ## Reading -/

/-- The number in `count` big-endian bytes at a position. -/
def readBigEndian (data : ByteArray) (pos count : Nat) : Option Nat :=
  if pos + count ≤ data.size then
    some ((List.range count).foldl (fun acc i => acc * 256 + (data.get! (pos + i)).toNat) 0)
  else none

/-- The head at a position, and the position after it. -/
def readHead (data : ByteArray) (pos : Nat) : Option (Head × Nat) := do
  guard (pos < data.size)
  let b := (data.get! pos).toNat
  let major := b / 32
  let low := b % 32
  let argument : Option (Option Nat × Nat) :=
    if low < 24 then some (some low, pos + 1)
    else if low == 24 then (readBigEndian data (pos + 1) 1).map (some ·, pos + 2)
    else if low == 25 then (readBigEndian data (pos + 1) 2).map (some ·, pos + 3)
    else if low == 26 then (readBigEndian data (pos + 1) 4).map (some ·, pos + 5)
    else if low == 27 then (readBigEndian data (pos + 1) 8).map (some ·, pos + 9)
    else if low == 31 then some (none, pos + 1)
    else none
  let (arg, next) ← argument
  match major, arg with
  | 0, some n => pure (.unsigned n, next)
  | 1, some n => pure (.negative n, next)
  | 2, len => pure (.bytes len, next)
  | 3, len => pure (.text len, next)
  | 4, len => pure (.array len, next)
  | 5, len => pure (.map len, next)
  | 6, some n => pure (.tag n, next)
  | 7, none => pure (.stop, next)
  | 7, some n =>
    if low < 24 || low == 24 then pure (.simple n, next)
    else pure (.float, next)
  | _, _ => none

/-- The head at a position after any tags. -/
def readUntagged (data : ByteArray) (pos : Nat) : Option (Head × Nat) :=
  let rec go : Nat → Nat → Option (Head × Nat)
    | 0, _ => none
    | fuel + 1, pos => do
      match ← readHead data pos with
      | (.tag _, next) => go fuel next
      | found => pure found
  go (data.size + 1) pos

/-- The UTF-8 text of a slice. -/
def textAt (data : ByteArray) (pos length : Nat) : Option String :=
  if pos + length ≤ data.size then String.fromUTF8? (data.extract pos (pos + length)) else none

/-- The string of a text item whose head was read: definite, or indefinite chunks each
valid on its own. -/
def readTextBody (data : ByteArray) (length : Option Nat) (pos : Nat) : Option (String × Nat) :=
  match length with
  | some n => (textAt data pos n).map (·, pos + n)
  | none =>
    let rec chunks : Nat → Nat → String → Option (String × Nat)
      | 0, _, _ => none
      | fuel + 1, pos, acc => do
        match ← readHead data pos with
        | (.stop, next) => pure (acc, next)
        | (.text (some n), next) =>
          let chunk ← textAt data next n
          chunks fuel (next + n) (acc ++ chunk)
        | _ => none
    chunks (data.size + 1) pos ""

/-- The position after the byte string whose head was read. -/
def skipBytesBody (data : ByteArray) (length : Option Nat) (pos : Nat) : Option Nat :=
  match length with
  | some n => if pos + n ≤ data.size then some (pos + n) else none
  | none =>
    let rec chunks : Nat → Nat → Option Nat
      | 0, _ => none
      | fuel + 1, pos => do
        match ← readHead data pos with
        | (.stop, next) => pure next
        | (.bytes (some n), next) =>
          if next + n ≤ data.size then chunks fuel (next + n) else none
        | _ => none
    chunks (data.size + 1) pos

/-- The position after the item at a position, within a nesting depth; `fuel` bounds the
number of items visited. -/
def skipItem (data : ByteArray) : Nat → Nat → Nat → Option Nat
  | 0, _, _ => none
  | fuel + 1, depth, pos => do
    let (head, next) ← readHead data pos
    match head with
    | .unsigned _ | .negative _ | .float => pure next
    | .simple v => if 20 ≤ v && v ≤ 23 then pure next else none
    | .bytes len => skipBytesBody data len next
    | .text len => (readTextBody data len next).map Prod.snd
    | .tag _ => skipItem data fuel depth next
    | .stop => none
    | .array len =>
      if depth < maxDepth then skipItems data fuel (depth + 1) len 1 next else none
    | .map len =>
      if depth < maxDepth then skipItems data fuel (depth + 1) len 2 next else none
where
  /-- The position after the items of a container: `count` of them, or up to a break;
  each entry is `width` items. -/
  skipItems (data : ByteArray) : Nat → Nat → Option Nat → Nat → Nat → Option Nat
    | 0, _, _, _, _ => none
    | _ + 1, _, some 0, _, pos => pure pos
    | fuel + 1, depth, some (n + 1), width, pos => do
      let pos ← skipEntry data fuel depth width pos
      skipItems data fuel depth (some n) width pos
    | fuel + 1, depth, none, width, pos => do
      match ← readHead data pos with
      | (.stop, next) => pure next
      | _ =>
        let pos ← skipEntry data fuel depth width pos
        skipItems data fuel depth none width pos
  /-- The position after `width` consecutive items. -/
  skipEntry (data : ByteArray) : Nat → Nat → Nat → Nat → Option Nat
    | _, _, 0, pos => pure pos
    | fuel, depth, width + 1, pos => do
      let pos ← skipItem data fuel depth pos
      skipEntry data fuel depth width pos

end ChartCatalog.Cbor
