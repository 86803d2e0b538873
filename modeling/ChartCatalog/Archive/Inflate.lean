/-!
# DEFLATE decoding

A DEFLATE stream (RFC 1951) is a sequence of blocks, each stored, compressed with
the fixed Huffman codes, or compressed with codes given in the block. Decoding reads
bits least significant first and produces the output bytes, copying back-references
from the output already produced.

Decoding stops in one of three ways, and callers tell them apart:
* the last block ends: the stream is done, and what follows starts at the next byte;
* the input ends first: the stream is *truncated*, and everything decoded so far is
  kept;
* the input breaks a rule: the stream is *corrupt*.

The rules are those of a streaming decoder with a 32 KiB window that starts out as
zeros: an incomplete or oversubscribed code is corrupt unless it has at most one
symbol, a repeat code with nothing to repeat is corrupt, and so are the length and
distance symbols the format reserves. A distance reaching before the first output
byte reads from the zero window. A *strict* decoder, as image formats use, refuses
such a distance and the literal and distance code counts above 286 and 30.
-/

set_option autoImplicit false

namespace ChartCatalog.Inflate

/-- Why decoding stopped before the end of the stream. -/
inductive Halt where
  | truncated
  | corrupt
  deriving DecidableEq, Repr, Inhabited

/-- The decoder state: the input, the bit position in it, and the output so far. -/
structure Inflater where
  strict : Bool
  data : ByteArray
  pos : Nat
  bit : Nat
  out : ByteArray

/-- Decoding steps; a halt keeps the state reached. -/
abbrev InflateM := ExceptT Halt (StateM Inflater)

/-- Reads one bit. -/
def readBit : InflateM Nat := do
  let s ← get
  if h : s.pos < s.data.size then
    let b := ((s.data.get s.pos h).toNat >>> s.bit) % 2
    set (if s.bit == 7 then { s with pos := s.pos + 1, bit := 0 } else { s with bit := s.bit + 1 })
    pure b
  else throw .truncated

/-- Reads an `n`-bit number, least significant bit first. -/
def readBits (n : Nat) : InflateM Nat := do
  let mut v := 0
  for k in [0:n] do
    let b ← readBit
    v := v + b * Nat.pow 2 k
  pure v

/-- A canonical Huffman code: how many codes have each length from 1 to 15, and the
symbols in code order. -/
structure Huffman where
  counts : Array Nat
  symbols : Array Nat
  deriving Inhabited

/-- The canonical code of a list of code lengths, one per symbol; none when the code is
incomplete or oversubscribed and has more than one symbol. -/
def Huffman.ofLengths (lengths : List Nat) : Option Huffman :=
  let counts := lengths.foldl (fun (c : Array Nat) l => if l == 0 then c else c.modify l (· + 1))
    (Array.replicate 16 0)
  let used := (List.range 15).foldl (fun a i => a + counts[i + 1]!) 0
  let total := (List.range 15).foldl (fun a i => a + counts[i + 1]! * Nat.pow 2 (15 - i)) 0
  if total != 65536 && used > 1 then none
  else
    let indexed := lengths.zipIdx.filter (·.1 != 0)
    let sorted := (List.range 16).flatMap fun len =>
      (indexed.filter (·.1 == len)).map (·.2)
    some ⟨counts, sorted.toArray⟩

/-- Decodes one symbol, reading one bit at a time from the shortest code up. -/
def Huffman.decode (h : Huffman) : InflateM Nat := do
  let mut code := 0
  let mut first := 0
  let mut index := 0
  for len in [1:16] do
    code := code + (← readBit)
    let count := h.counts[len]!
    if code < first + count then
      return h.symbols[index + (code - first)]!
    index := index + count
    first := (first + count) * 2
    code := code * 2
  throw .corrupt

/-- Base lengths of the length symbols 257 to 285. -/
def lengthBase : Array Nat :=
  #[3, 4, 5, 6, 7, 8, 9, 10, 11, 13, 15, 17, 19, 23, 27, 31, 35, 43, 51, 59, 67, 83, 99, 115,
    131, 163, 195, 227, 258]

/-- Extra bits of the length symbols 257 to 285. -/
def lengthExtra : Array Nat :=
  #[0, 0, 0, 0, 0, 0, 0, 0, 1, 1, 1, 1, 2, 2, 2, 2, 3, 3, 3, 3, 4, 4, 4, 4, 5, 5, 5, 5, 0]

/-- Base distances of the distance symbols 0 to 29. -/
def distanceBase : Array Nat :=
  #[1, 2, 3, 4, 5, 7, 9, 13, 17, 25, 33, 49, 65, 97, 129, 193, 257, 385, 513, 769, 1025, 1537,
    2049, 3073, 4097, 6145, 8193, 12289, 16385, 24577]

/-- Extra bits of the distance symbols 0 to 29. -/
def distanceExtra : Array Nat :=
  #[0, 0, 0, 0, 1, 1, 2, 2, 3, 3, 4, 4, 5, 5, 6, 6, 7, 7, 8, 8, 9, 9, 10, 10, 11, 11, 12, 12, 13, 13]

/-- Appends a back-reference of `length` bytes from `distance` back; bytes before the
start of the output are zeros. -/
def copyBack (out : ByteArray) (distance length : Nat) : ByteArray := Id.run do
  let mut out := out
  for _ in [0:length] do
    let n := out.size
    out := out.push (if n ≥ distance then out.get! (n - distance) else 0)
  return out

/-- Decodes the symbols of a compressed block up to its end symbol. -/
def codes (lit dist : Huffman) : InflateM Unit := do
  let s ← get
  let rec go : Nat → InflateM Unit
    | 0 => throw .corrupt
    | fuel + 1 => do
      let sym ← lit.decode
      if sym < 256 then
        modify fun s => { s with out := s.out.push (UInt8.ofNat sym) }
        go fuel
      else if sym == 256 then pure ()
      else if sym > 285 then throw .corrupt
      else
        let i := sym - 257
        let length := lengthBase[i]! + (← readBits lengthExtra[i]!)
        let d ← dist.decode
        if d > 29 then throw .corrupt
        let distance := distanceBase[d]! + (← readBits distanceExtra[d]!)
        let s ← get
        if s.strict && distance > s.out.size then throw .corrupt
        modify fun s => { s with out := copyBack s.out distance length }
        go fuel
  go (8 * s.data.size + 1)

/-- The fixed literal and length code. -/
def fixedLiteral : Huffman :=
  (Huffman.ofLengths ((List.replicate 144 8) ++ (List.replicate 112 9) ++ (List.replicate 24 7) ++
    (List.replicate 8 8))).getD default

/-- The fixed distance code. -/
def fixedDistance : Huffman := (Huffman.ofLengths (List.replicate 32 5)).getD default

/-- The order in which code length code lengths are given. -/
def codeLengthOrder : List Nat := [16, 17, 18, 0, 8, 7, 9, 6, 10, 5, 11, 4, 12, 3, 13, 2, 14, 1, 15]

/-- Reads the code lengths of a dynamic block with the code length code. -/
def readLengths (lens : Huffman) (total : Nat) : InflateM (Array Nat) := do
  let rec go : Nat → Array Nat → InflateM (Array Nat)
    | 0, _ => throw .corrupt
    | fuel + 1, acc => do
      if acc.size ≥ total then
        if acc.size == total then pure acc else throw .corrupt
      else
        let sym ← lens.decode
        if sym < 16 then go fuel (acc.push sym)
        else if sym == 16 then
          if acc.isEmpty then throw .corrupt
          let n := 3 + (← readBits 2)
          go fuel (acc ++ Array.replicate n acc.back!)
        else if sym == 17 then
          let n := 3 + (← readBits 3)
          go fuel (acc ++ Array.replicate n 0)
        else
          let n := 11 + (← readBits 7)
          go fuel (acc ++ Array.replicate n 0)
  go (total + 1) #[]

/-- Reads the codes of a dynamic block. -/
def dynamicCodes : InflateM (Huffman × Huffman) := do
  let hlit := 257 + (← readBits 5)
  let hdist := 1 + (← readBits 5)
  let hclen := 4 + (← readBits 4)
  if (← get).strict && (hlit > 286 || hdist > 30) then throw .corrupt
  let mut order : Array Nat := Array.replicate 19 0
  for i in [0:hclen] do
    let l ← readBits 3
    order := order.set! (codeLengthOrder[i]!) l
  let some lens := Huffman.ofLengths order.toList | throw .corrupt
  let lengths ← readLengths lens (hlit + hdist)
  let some lit := Huffman.ofLengths (lengths.extract 0 hlit).toList | throw .corrupt
  let some dist := Huffman.ofLengths (lengths.extract hlit (hlit + hdist)).toList | throw .corrupt
  pure (lit, dist)

/-- Copies a stored block. -/
def stored : InflateM Unit := do
  let s ← get
  let s := if s.bit != 0 then { s with pos := s.pos + 1, bit := 0 } else s
  set s
  let len ← readBits 16
  let nlen ← readBits 16
  if len != nlen ^^^ 0xFFFF then throw .corrupt
  let s ← get
  let avail := s.data.size - s.pos
  let n := min len avail
  set { s with out := s.out ++ s.data.extract s.pos (s.pos + n), pos := s.pos + n }
  if n < len then throw .truncated

/-- Decodes blocks up to the last one. -/
def blocks : InflateM Unit := do
  let s ← get
  let rec go : Nat → InflateM Unit
    | 0 => throw .corrupt
    | fuel + 1 => do
      let last ← readBit
      let kind ← readBits 2
      match kind with
      | 0 => stored
      | 1 => codes fixedLiteral fixedDistance
      | 2 =>
        let (lit, dist) ← dynamicCodes
        codes lit dist
      | _ => throw .corrupt
      if last == 1 then pure () else go fuel
  go (8 * s.data.size + 1)

/-- The result of decoding: the output, and either the position of the byte after the
stream or why decoding halted. -/
structure Inflated where
  output : ByteArray
  status : Except Halt Nat

/-- Decodes the DEFLATE stream that starts at byte `start`; `strict` refuses distances
before the start of the output. -/
def inflate (strict : Bool) (data : ByteArray) (start : Nat) : Inflated :=
  let (result, s) := (blocks.run).run ⟨strict, data, start, 0, ByteArray.empty⟩
  match result with
  | .ok () => ⟨s.out, .ok (if s.bit == 0 then s.pos else s.pos + 1)⟩
  | .error h => ⟨s.out, .error h⟩

end ChartCatalog.Inflate
