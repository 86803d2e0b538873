import ChartCatalog.Image.Raster

/-!
# JPEG images

A JPEG file is a sequence of marker segments: quantisation tables, Huffman tables, a
frame header giving the size and components, and one or more scans of entropy-coded
8×8 blocks of DCT coefficients. Baseline, extended sequential and progressive Huffman
frames with 8-bit samples are decoded; lossless, hierarchical and arithmetic-coded
frames are refused, and so are files with no frame or no scan.

Entropy-coded data that ends early reads as zero bits, so a file cut inside a scan
still decodes (the missing blocks come out flat); a file cut inside its headers does
not.

Each block is dequantised and inverse transformed, chroma is replicated up to the
full resolution, and the colour is converted: one component is luma, three are
YCbCr, four are Adobe CMYK (or YCCK when the Adobe marker says so), both shown as RGB.
-/

set_option autoImplicit false

namespace ChartCatalog.Jpeg

open Image

/-- The position in natural order of each coefficient in zigzag order. -/
def zigzag : Array Nat :=
  #[0, 1, 8, 16, 9, 2, 3, 10, 17, 24, 32, 25, 18, 11, 4, 5, 12, 19, 26, 33, 40, 48, 41, 34, 27, 20,
    13, 6, 7, 14, 21, 28, 35, 42, 49, 56, 57, 50, 43, 36, 29, 22, 15, 23, 30, 37, 44, 51, 58, 59,
    52, 45, 38, 31, 39, 46, 53, 60, 61, 54, 47, 55, 62, 63]

/-- A Huffman table: how many codes have each length from 1 to 16, and the symbols in
code order. -/
structure Huffman where
  counts : Array Nat
  symbols : Array Nat
  deriving Inhabited

/-- A frame component. -/
structure Component where
  id : Nat
  h : Nat
  v : Nat
  table : Nat
  deriving Inhabited

/-- The frame header. -/
structure Frame where
  progressive : Bool
  width : Nat
  height : Nat
  comps : Array Component
  deriving Inhabited

namespace Frame

/-- The largest horizontal sampling factor. -/
def hmax (f : Frame) : Nat := f.comps.foldl (fun m c => max m c.h) 1

/-- The largest vertical sampling factor. -/
def vmax (f : Frame) : Nat := f.comps.foldl (fun m c => max m c.v) 1

/-- MCUs across. -/
def mcusX (f : Frame) : Nat := (f.width + 8 * f.hmax - 1) / (8 * f.hmax)

/-- MCUs down. -/
def mcusY (f : Frame) : Nat := (f.height + 8 * f.vmax - 1) / (8 * f.vmax)

/-- Blocks across the stored plane of a component. -/
def blocksWide (f : Frame) (c : Component) : Nat := f.mcusX * c.h

/-- Blocks down the stored plane of a component. -/
def blocksHigh (f : Frame) (c : Component) : Nat := f.mcusY * c.v

end Frame

/-- What the decoder has read so far. -/
structure Tables where
  quant : Array (Array Nat)
  dc : Array (Option Huffman)
  ac : Array (Option Huffman)
  frame : Option Frame
  restart : Nat
  adobe : Option Nat
  coeffs : Array (Array Int)
  scans : Nat
  deriving Inhabited

/-- A big-endian 16-bit number. -/
def be16 (d : ByteArray) (i : Nat) : Nat := (d.get! i).toNat * 256 + (d.get! (i + 1)).toNat

/-- Reads the Huffman tables of a segment. -/
def readHuffman (t : Tables) (seg : ByteArray) : Except String Tables := do
  let rec go : Nat → Nat → Tables → Except String Tables
    | 0, _, t => pure t
    | fuel + 1, i, t => do
      if i ≥ seg.size then return t
      if i + 17 > seg.size then throw "short Huffman table"
      let tc := (seg.get! i).toNat / 16
      let th := (seg.get! i).toNat % 16
      if tc > 1 || th > 3 then throw "bad Huffman table id"
      let counts := (List.range 16).map fun k => (seg.get! (i + 1 + k)).toNat
      let total := counts.sum
      if total > 256 || i + 17 + total > seg.size then throw "bad Huffman table"
      let symbols := (List.range total).map fun k => (seg.get! (i + 17 + k)).toNat
      let table : Huffman := ⟨(0 :: counts).toArray, symbols.toArray⟩
      let t := if tc == 0 then { t with dc := t.dc.set! th (some table) }
        else { t with ac := t.ac.set! th (some table) }
      go fuel (i + 17 + total) t
  go (seg.size + 1) 0 t

/-- Reads the quantisation tables of a segment, stored in natural order. -/
def readQuant (t : Tables) (seg : ByteArray) : Except String Tables := do
  let rec go : Nat → Nat → Tables → Except String Tables
    | 0, _, t => pure t
    | fuel + 1, i, t => do
      if i ≥ seg.size then return t
      let pq := (seg.get! i).toNat / 16
      let tq := (seg.get! i).toNat % 16
      if pq > 1 || tq > 3 then throw "bad quantisation table"
      let width := if pq == 1 then 2 else 1
      if i + 1 + 64 * width > seg.size then throw "short quantisation table"
      let mut q : Array Nat := Array.replicate 64 0
      for k in [0:64] do
        let v := if pq == 1 then be16 seg (i + 1 + 2 * k) else (seg.get! (i + 1 + k)).toNat
        q := q.set! zigzag[k]! v
      go fuel (i + 1 + 64 * width) { t with quant := t.quant.set! tq q }
  go (seg.size + 1) 0 t

/-- Reads a frame header. -/
def readFrame (t : Tables) (progressive : Bool) (seg : ByteArray) : Except String Tables := do
  if t.frame.isSome then throw "duplicate frame"
  if seg.size < 6 then throw "short frame header"
  if seg.get! 0 != 8 then throw "unsupported sample precision"
  let height := be16 seg 1
  let width := be16 seg 3
  let n := (seg.get! 5).toNat
  if width == 0 || height == 0 then throw "zero-sized image"
  if n == 0 || n > 4 || seg.size < 6 + 3 * n then throw "bad component count"
  let comps := (List.range n).map fun k =>
    let b := seg.get! (7 + 3 * k)
    (⟨(seg.get! (6 + 3 * k)).toNat, b.toNat / 16, b.toNat % 16, (seg.get! (8 + 3 * k)).toNat⟩ : Component)
  if comps.any fun c => c.h == 0 || c.h > 4 || c.v == 0 || c.v > 4 || c.table > 3 then
    throw "bad component"
  let f : Frame := ⟨progressive, width, height, comps.toArray⟩
  if pixelBytes width height (if n == 1 then .l8 else .rgb8) > maxPixelBytes then throw "image too large"
  let coeffs := f.comps.map fun c => Array.replicate (f.blocksWide c * f.blocksHigh c * 64) (0 : Int)
  pure { t with frame := some f, coeffs := coeffs }

/-- The entropy decoder: position in the data and the bits in hand. -/
structure Bits where
  pos : Nat
  acc : Nat
  count : Nat

/-- A scan's state: the bit reader, DC predictions and the end-of-band run. -/
structure ScanState where
  bits : Bits
  preds : Array Int
  eobrun : Nat
  coeffs : Array (Array Int)

/-- Scan decoding steps over fixed data. -/
abbrev ScanM := ReaderT ByteArray (StateT ScanState (Except String))

/-- Reads one bit; past the data, or at a marker, the bits are zeros. -/
def bit : ScanM Nat := do
  let d ← read
  let s ← get
  let b := s.bits
  let b ← if b.count > 0 then pure b else
    if b.pos < d.size then
      let x := (d.get! b.pos).toNat
      if x == 0xFF then
        if b.pos + 1 < d.size && d.get! (b.pos + 1) == 0 then pure ⟨b.pos + 2, 0xFF, 8⟩
        else pure ⟨b.pos, 0, 8⟩
      else pure ⟨b.pos + 1, x, 8⟩
    else pure ⟨b.pos, 0, 8⟩
  let v := (b.acc >>> (b.count - 1)) % 2
  set { s with bits := { b with count := b.count - 1 } }
  pure v

/-- Reads `n` bits, most significant first. -/
def bitsN (n : Nat) : ScanM Nat := do
  let mut v := 0
  for _ in [0:n] do
    v := 2 * v + (← bit)
  pure v

/-- The signed value of `s` received bits. -/
def extend (v s : Nat) : Int :=
  if s == 0 then 0 else if v < Nat.pow 2 (s - 1) then (v : Int) - (Nat.pow 2 s - 1 : Nat) else v

/-- Decodes one Huffman symbol. -/
def decodeSym (h : Huffman) : ScanM Nat := do
  let mut code := 0
  let mut first := 0
  let mut index := 0
  for len in [1:17] do
    code := code + (← bit)
    let count := h.counts[len]!
    if code < first + count then
      return h.symbols[index + (code - first)]!
    index := index + count
    first := (first + count) * 2
    code := code * 2
  throw "bad Huffman code"

/-- Sets a coefficient of a block of a component. -/
def setCoeff (c block k : Nat) (v : Int) : ScanM Unit :=
  modify fun s => { s with coeffs := s.coeffs.modify c fun a => a.set! (block * 64 + k) v }

/-- A coefficient of a block of a component. -/
def getCoeff (c block k : Nat) : ScanM Int := do
  pure ((← get).coeffs[c]!)[block * 64 + k]!

/-- The natural position of zigzag index `k`, clamped to the last coefficient. -/
def zz (k : Nat) : Nat := zigzag[k]?.getD 63

/-- Parameters of a scan. -/
structure ScanParams where
  start : Nat
  stop : Nat
  high : Nat
  low : Nat

/-- Decodes one block of a sequential scan. -/
def sequentialBlock (c block : Nat) (dc ac : Huffman) : ScanM Unit := do
  let t ← decodeSym dc
  let diff := extend (← bitsN t) t
  let s ← get
  let pred := s.preds[c]! + diff
  set { s with preds := s.preds.set! c pred }
  setCoeff c block 0 pred
  let rec go : Nat → Nat → ScanM Unit
    | 0, _ => pure ()
    | fuel + 1, k => do
      if k ≥ 64 then return
      let rs ← decodeSym ac
      let r := rs / 16
      let sz := rs % 16
      if sz == 0 then
        if rs != 0xF0 then return
        go fuel (k + 16)
      else
        let k := k + r
        setCoeff c block (zz k) (extend (← bitsN sz) sz)
        go fuel (k + 1)
  go 64 1

/-- Decodes one block of a progressive DC scan. -/
def dcBlock (c block : Nat) (dc : Option Huffman) (p : ScanParams) : ScanM Unit := do
  if p.high == 0 then
    let some dc := dc | throw "missing Huffman table"
    let t ← decodeSym dc
    let diff := extend (← bitsN t) t
    let s ← get
    let pred := s.preds[c]! + diff
    set { s with preds := s.preds.set! c pred }
    setCoeff c block 0 (pred * Int.pow 2 p.low)
  else
    if (← bit) == 1 then
      let v ← getCoeff c block 0
      setCoeff c block 0 (v + Int.pow 2 p.low)

/-- Decodes one block of a progressive AC first scan. -/
def acFirstBlock (c block : Nat) (ac : Huffman) (p : ScanParams) : ScanM Unit := do
  let s ← get
  if s.eobrun > 0 then
    set { s with eobrun := s.eobrun - 1 }
    return
  let rec go : Nat → Nat → ScanM Unit
    | 0, _ => pure ()
    | fuel + 1, k => do
      if k > p.stop then return
      let rs ← decodeSym ac
      let r := rs / 16
      let sz := rs % 16
      if sz == 0 then
        if r < 15 then
          let run := Nat.pow 2 r + (← bitsN r) - 1
          modify fun s => { s with eobrun := run }
        else go fuel (k + 16)
      else
        let k := k + r
        setCoeff c block (zz k) (extend (← bitsN sz) sz * Int.pow 2 p.low)
        go fuel (k + 1)
  go 64 p.start

/-- Refines the nonzero coefficient at zigzag index `k` with one more bit. -/
def refineNonzero (c block k : Nat) (bitValue : Int) : ScanM Unit := do
  let v ← getCoeff c block (zz k)
  if (← bit) == 1 && (v.natAbs / bitValue.natAbs) % 2 == 0 then
    setCoeff c block (zz k) (if v > 0 then v + bitValue else v - bitValue)

/-- Decodes one block of a progressive AC refinement scan. -/
def acRefineBlock (c block : Nat) (ac : Huffman) (p : ScanParams) : ScanM Unit := do
  let bitValue : Int := Int.pow 2 p.low
  let s ← get
  if s.eobrun > 0 then
    set { s with eobrun := s.eobrun - 1 }
    for k in [p.start:p.stop + 1] do
      if (← getCoeff c block (zz k)) != 0 then refineNonzero c block k bitValue
    return
  -- walks from `k`, refining nonzero coefficients, and places `value` at the
  -- `run`-th zero coefficient; returns the index after it
  let rec place : Nat → Nat → Nat → Int → ScanM Nat
    | 0, k, _, _ => pure k
    | fuel + 1, k, run, value => do
      if k > p.stop then return k
      if (← getCoeff c block (zz k)) != 0 then
        refineNonzero c block k bitValue
        place fuel (k + 1) run value
      else if run == 0 then
        if value != 0 then setCoeff c block (zz k) value
        pure (k + 1)
      else place fuel (k + 1) (run - 1) value
  let rec go : Nat → Nat → ScanM Unit
    | 0, _ => pure ()
    | fuel + 1, k => do
      if k > p.stop then return
      let rs ← decodeSym ac
      let sz := rs % 16
      let r := rs / 16
      if sz == 0 && r < 15 then
        let run := Nat.pow 2 r + (← bitsN r) - 1
        modify fun s => { s with eobrun := run }
        let _ ← place 64 k 64 0
      else
        let value ← if sz == 0 then pure (0 : Int)
          else if sz != 1 then throw "bad Huffman code"
          else do pure (if (← bit) == 1 then bitValue else -bitValue)
        let k ← place 64 k r value
        go fuel k
  go 64 p.start

/-- Skips to the byte after the next restart marker, dropping the bits in hand. -/
def restartSync : ScanM Unit := do
  let d ← read
  let s ← get
  let pos := s.bits.pos
  let pos := if pos + 1 < d.size && d.get! pos == 0xFF && 0xD0 ≤ d.get! (pos + 1) && d.get! (pos + 1) ≤ 0xD7
    then pos + 2 else pos
  set { s with bits := ⟨pos, 0, 0⟩, preds := s.preds.map fun _ => 0, eobrun := 0 }

/-- Decodes the blocks of a scan over the given components. -/
def scanBlocks (f : Frame) (t : Tables) (comps : List (Nat × Nat × Nat)) (p : ScanParams) :
    ScanM Unit := do
  let decodeOne (ci dcId acId block : Nat) : ScanM Unit := do
    if !f.progressive then
      let some dc := t.dc[dcId]! | throw "missing Huffman table"
      let some ac := t.ac[acId]! | throw "missing Huffman table"
      sequentialBlock ci block dc ac
    else if p.start == 0 then dcBlock ci block t.dc[dcId]! p
    else
      let some ac := t.ac[acId]! | throw "missing Huffman table"
      if p.high == 0 then acFirstBlock ci block ac p else acRefineBlock ci block ac p
  match comps with
  | [(ci, dcId, acId)] =>
    let c := f.comps[ci]!
    let cw := (f.width * c.h + f.hmax - 1) / f.hmax
    let chh := (f.height * c.v + f.vmax - 1) / f.vmax
    let bw := (cw + 7) / 8
    let bh := (chh + 7) / 8
    for n in [0:bw * bh] do
      if t.restart > 0 && n > 0 && n % t.restart == 0 then restartSync
      let block := (n / bw) * f.blocksWide c + n % bw
      decodeOne ci dcId acId block
  | _ =>
    for n in [0:f.mcusX * f.mcusY] do
      if t.restart > 0 && n > 0 && n % t.restart == 0 then restartSync
      let mx := n % f.mcusX
      let my := n / f.mcusX
      for (ci, dcId, acId) in comps do
        let c := f.comps[ci]!
        for by_ in [0:c.v] do
          for bx in [0:c.h] do
            let block := (my * c.v + by_) * f.blocksWide c + mx * c.h + bx
            decodeOne ci dcId acId block

/-- The position of the next marker at or after `pos` that is not a restart marker. -/
def nextMarker (d : ByteArray) (pos : Nat) : Nat :=
  let rec go : Nat → Nat → Nat
    | 0, i => i
    | fuel + 1, i =>
      if i + 1 < d.size then
        let b := d.get! (i + 1)
        if d.get! i == 0xFF && b != 0 && b != 0xFF && !(0xD0 ≤ b && b ≤ 0xD7) then i else go fuel (i + 1)
      else d.size
  go d.size pos

/-- Reads a scan header and decodes the scan that follows; returns the position after it. -/
def readScan (t : Tables) (seg : ByteArray) (d : ByteArray) (dataStart : Nat) :
    Except String (Tables × Nat) := do
  let some f := t.frame | throw "scan before frame"
  if seg.size < 1 then throw "short scan header"
  let n := (seg.get! 0).toNat
  if n == 0 || n > 4 || seg.size < 4 + 2 * n then throw "bad scan header"
  let mut comps : List (Nat × Nat × Nat) := []
  for k in [0:n] do
    let id := (seg.get! (1 + 2 * k)).toNat
    let tables := (seg.get! (2 + 2 * k)).toNat
    match f.comps.findIdx? (·.id == id) with
    | some ci =>
      if tables / 16 > 3 || tables % 16 > 3 then throw "bad table id"
      comps := comps ++ [(ci, tables / 16, tables % 16)]
    | none => throw "unknown component in scan"
  let p : ScanParams := ⟨(seg.get! (1 + 2 * n)).toNat, (seg.get! (2 + 2 * n)).toNat,
    (seg.get! (3 + 2 * n)).toNat / 16, (seg.get! (3 + 2 * n)).toNat % 16⟩
  if f.progressive then
    if p.start > 63 || p.stop > 63 || p.start > p.stop || p.high > 13 || p.low > 13 then
      throw "bad progressive scan"
    if p.start == 0 && p.stop != 0 then throw "bad progressive scan"
    if p.start > 0 && n != 1 then throw "bad progressive scan"
  for (ci, _, _) in comps do
    if t.quant[f.comps[ci]!.table]!.isEmpty then throw "missing quantisation table"
  let start : ScanState := ⟨⟨dataStart, 0, 0⟩, Array.replicate f.comps.size 0, 0, t.coeffs⟩
  let t := { t with coeffs := #[] }
  match ((scanBlocks f t comps p).run d).run start with
  | .ok ((), s) => pure ({ t with coeffs := s.coeffs, scans := t.scans + 1 }, nextMarker d s.bits.pos)
  | .error e => throw e

/-- Reads the segments of a file up to the end of the image. -/
def readFile (d : ByteArray) : Except String Tables := do
  let init : Tables := ⟨Array.replicate 4 #[], Array.replicate 4 none, Array.replicate 4 none, none, 0,
    none, #[], 0⟩
  let rec go : Nat → Nat → Tables → Except String Tables
    | 0, _, t => pure t
    | fuel + 1, pos, t => do
      -- find the next marker, skipping stray bytes and fill bytes
      let pos := nextMarker d pos
      if pos + 1 ≥ d.size then return t
      let m := (d.get! (pos + 1)).toNat
      if m == 0xD9 then return t
      if m == 0xD8 || m == 0x01 then return ← go fuel (pos + 2) t
      if pos + 4 > d.size then throw "unexpected end of file"
      let len := be16 d (pos + 2)
      if len < 2 || pos + 2 + len > d.size then throw "unexpected end of file"
      let seg := d.extract (pos + 4) (pos + 2 + len)
      let next := pos + 2 + len
      match m with
      | 0xC0 | 0xC1 => go fuel next (← readFrame t false seg)
      | 0xC2 => go fuel next (← readFrame t true seg)
      | 0xC3 | 0xC5 | 0xC6 | 0xC7 | 0xC9 | 0xCA | 0xCB | 0xCD | 0xCE | 0xCF =>
        throw "unsupported JPEG coding"
      | 0xC4 => go fuel next (← readHuffman t seg)
      | 0xDB => go fuel next (← readQuant t seg)
      | 0xDD =>
        if seg.size < 2 then throw "short restart interval"
        go fuel next { t with restart := be16 seg 0 }
      | 0xEE =>
        let adobe := if seg.size ≥ 12 && seg.extract 0 5 == "Adobe".toUTF8 then some (seg.get! 11).toNat
          else t.adobe
        go fuel next { t with adobe := adobe }
      | 0xDA =>
        let (t, after) ← readScan t seg d next
        go fuel after t
      | _ => go fuel next t
  go (d.size + 1) 2 init

/-- Cosines of the inverse transform, scaled: `c(u) cos((2x + 1) u π / 16) / 2`. -/
def idctTable : Array Float := Id.run do
  let mut out := #[]
  for x in [0:8] do
    for u in [0:8] do
      let cu := if u == 0 then 1 / Float.sqrt 2 else 1
      out := out.push (cu * Float.cos ((2 * x.toFloat + 1) * u.toFloat * 3.141592653589793 / 16) / 2)
  return out

/-- The samples of one dequantised block, level-shifted and clamped. -/
def idctBlock (coef : Array Int) (base : Nat) (q : Array Nat) : Array Nat := Id.run do
  let mut tmp : Array Float := Array.replicate 64 0
  for y in [0:8] do
    for u in [0:8] do
      let mut s : Float := 0
      for v in [0:8] do
        let c := coef[base + v * 8 + u]! * (q[v * 8 + u]! : Int)
        s := s + idctTable[y * 8 + v]! * (Float.ofInt c)
      tmp := tmp.set! (y * 8 + u) s
  let mut out : Array Nat := Array.replicate 64 0
  for y in [0:8] do
    for x in [0:8] do
      let mut s : Float := 0
      for u in [0:8] do
        s := s + idctTable[x * 8 + u]! * tmp[y * 8 + u]!
      let v := (s + 128).round
      out := out.set! (y * 8 + x) (if v < 0 then 0 else if v > 255 then 255 else v.toUInt64.toNat)
  return out

/-- The full sample plane of a component. -/
def plane (f : Frame) (t : Tables) (ci : Nat) : Array Nat := Id.run do
  let c := f.comps[ci]!
  let bw := f.blocksWide c
  let bh := f.blocksHigh c
  let w := bw * 8
  let coef := t.coeffs[ci]!
  let q := t.quant[c.table]!
  let mut out : Array Nat := Array.replicate (w * bh * 8) 0
  for b in [0:bw * bh] do
    let samples := idctBlock coef (b * 64) q
    let bx := b % bw
    let by_ := b / bw
    for k in [0:64] do
      out := out.set! ((by_ * 8 + k / 8) * w + bx * 8 + k % 8) samples[k]!
  return out

/-- Clamps and rounds a colour value. -/
def clampByte (v : Float) : Nat :=
  let r := v.round
  if r < 0 then 0 else if r > 255 then 255 else r.toUInt64.toNat

/-- Decodes a JPEG image. -/
def decode (d : ByteArray) : Except String Raster := do
  let t ← readFile d
  let some f := t.frame | throw "no frame"
  if t.scans == 0 then throw "no scan"
  let n := f.comps.size
  if n == 2 then throw "unsupported component count"
  let planes := (List.range n).toArray.map (plane f t)
  let widths := f.comps.map fun c => f.blocksWide c * 8
  let sample (ci x y : Nat) : Nat :=
    let c := f.comps[ci]!
    (planes[ci]!)[(y * c.v / f.vmax) * widths[ci]! + x * c.h / f.hmax]!
  let mut out : Array Nat := #[]
  for y in [0:f.height] do
    for x in [0:f.width] do
      if n == 1 then out := out.push (sample 0 x y)
      else
        let c0 := (sample 0 x y).toFloat
        let c1 := (sample 1 x y).toFloat - 128
        let c2 := (sample 2 x y).toFloat - 128
        let ycc := n == 3 || t.adobe == some 2
        let (r, g, b) := if ycc then
            (clampByte (c0 + 1.402 * c2), clampByte (c0 - 0.344136 * c1 - 0.714136 * c2),
              clampByte (c0 + 1.772 * c1))
          else (sample 0 x y, sample 1 x y, sample 2 x y)
        if n == 4 then
          let k := sample 3 x y
          out := out ++ #[r * k / 255, g * k / 255, b * k / 255]
        else out := out ++ #[r, g, b]
  pure ⟨f.width, f.height, if n == 1 then .l8 else .rgb8, out⟩

end ChartCatalog.Jpeg
