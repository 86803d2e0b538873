import ChartCatalog.Image.Raster
import ChartCatalog.Archive.Inflate
import ChartCatalog.Archive.Crc32

/-!
# PNG images

Decoding reads the chunks after the signature: the header first, then the palette,
transparency and image data chunks, every chunk's CRC checked, up to the start of the
first chunk after the image data. The image data is a zlib stream that must be
complete, holding each row of each interlace pass behind its filter byte.

Samples are expanded as an icon decoder wants them: palette indices become RGB (RGBA
with a transparency chunk), luma below 8 bits is scaled to 8 bits, and a transparency
chunk on luma or RGB adds an alpha channel that is zero exactly on the transparent
colour. 16-bit samples stay 16-bit.

Encoding writes a raster as a non-interlaced PNG with unfiltered rows in stored
DEFLATE blocks; it reads back as the same raster.
-/

set_option autoImplicit false

namespace ChartCatalog.Png

open Image

/-- The PNG signature. -/
def signature : ByteArray := ⟨#[0x89, 0x50, 0x4E, 0x47, 0x0D, 0x0A, 0x1A, 0x0A]⟩

/-- Whether data starts with the PNG signature. -/
def hasSignature (data : ByteArray) : Bool := data.extract 0 8 == signature

/-- A big-endian 32-bit number. -/
def be32 (d : ByteArray) (i : Nat) : Nat :=
  (d.get! i).toNat * 16777216 + (d.get! (i + 1)).toNat * 65536 + (d.get! (i + 2)).toNat * 256 +
    (d.get! (i + 3)).toNat

/-- The image header. -/
structure Header where
  width : Nat
  height : Nat
  bitDepth : Nat
  colorType : Nat
  interlaced : Bool

/-- Samples per pixel as stored. -/
def Header.channels (h : Header) : Nat :=
  match h.colorType with
  | 2 => 3
  | 4 => 2
  | 6 => 4
  | _ => 1

/-- Whether a bit depth is allowed with a colour type. -/
def validDepth (colorType bitDepth : Nat) : Bool :=
  match colorType with
  | 0 => [1, 2, 4, 8, 16].contains bitDepth
  | 3 => [1, 2, 4, 8].contains bitDepth
  | 2 | 4 | 6 => bitDepth == 8 || bitDepth == 16
  | _ => false

/-- Reads the header chunk. -/
def parseHeader (d : ByteArray) : Except String Header := do
  if d.size < 13 then throw "short header"
  let h : Header := ⟨be32 d 0, be32 d 4, (d.get! 8).toNat, (d.get! 9).toNat, d.get! 12 == 1⟩
  if h.width == 0 || h.height == 0 then throw "invalid dimensions"
  if !validDepth h.colorType h.bitDepth then throw "invalid bit depth or colour type"
  if d.get! 10 != 0 then throw "unknown compression method"
  if d.get! 11 != 0 then throw "unknown filter method"
  if d.get! 12 > 1 then throw "unknown interlace method"
  pure h

/-- What decoding needs from the chunks. -/
structure Chunks where
  header : Header
  palette : Option ByteArray
  trns : Option ByteArray
  data : ByteArray

/-- The transparency chunk as the decoder keeps it: for samples below 16 bits, only
the low byte of each value. -/
def trnsValue (h : Header) (d : ByteArray) : Except String ByteArray :=
  match h.colorType with
  | 0 =>
    if d.size < 2 then throw "short transparency chunk"
    else if h.bitDepth < 16 then pure ⟨#[d.get! 1]⟩ else pure (d.extract 0 2)
  | 2 =>
    if d.size < 6 then throw "short transparency chunk"
    else if h.bitDepth < 16 then pure ⟨#[d.get! 1, d.get! 3, d.get! 5]⟩ else pure (d.extract 0 6)
  | 3 => pure d
  | _ => throw "transparency chunk on a colour type with alpha"

/-- Reads the chunks up to the start of the chunk after the image data. -/
def readChunks (data : ByteArray) : Except String Chunks := do
  let rec go : Nat → Nat → Option Header → Option ByteArray → Option ByteArray → ByteArray → Bool →
      Except String Chunks
    | 0, _, _, _, _, _, _ => throw "too many chunks"
    | fuel + 1, pos, header, palette, trns, idat, seenData => do
      if pos + 8 > data.size then throw "unexpected end of file"
      let len := be32 data pos
      let kind := String.fromUTF8? (data.extract (pos + 4) (pos + 8)) |>.getD ""
      if seenData && kind != "IDAT" then
        match header with
        | some h => return ⟨h, palette, trns, idat⟩
        | none => throw "missing header"
      if pos + 12 + len > data.size then throw "unexpected end of file"
      let body := data.extract (pos + 8) (pos + 8 + len)
      if (Crc32.checksum (data.extract (pos + 4) (pos + 8 + len))).toNat != be32 data (pos + 8 + len) then
        throw "CRC error"
      let next := pos + 12 + len
      match header, kind with
      | none, "IHDR" => go fuel next (some (← parseHeader body)) palette trns idat false
      | none, _ => throw "chunk before the header"
      | some _, "IHDR" => throw "duplicate header"
      | some h, "PLTE" => go fuel next (some h) (some body) trns idat false
      | some h, "tRNS" =>
        if trns.isSome then throw "duplicate transparency chunk"
        if h.colorType == 3 && palette.isNone then throw "transparency chunk before the palette"
        go fuel next (some h) palette (some (← trnsValue h body)) idat false
      | some h, "IDAT" =>
        if h.colorType == 3 && palette.isNone then throw "palette missing"
        go fuel next (some h) palette trns (idat ++ body) true
      | some _, "IEND" => throw "no image data"
      | some h, _ => go fuel next (some h) palette trns idat false
  if !hasSignature data then throw "not a PNG"
  go (data.size + 1) 8 none none none ByteArray.empty false

/-- Decompresses a zlib stream, which must be complete. -/
def unzlib (d : ByteArray) : Except String ByteArray := do
  if d.size < 2 then throw "short zlib stream"
  let cmf := (d.get! 0).toNat
  let flg := (d.get! 1).toNat
  if cmf % 16 != 8 || cmf / 16 > 7 || (cmf * 256 + flg) % 31 != 0 || flg &&& 0x20 != 0 then
    throw "bad zlib header"
  let r := Inflate.inflate true d 2
  match r.status with
  | .ok _ => pure r.output
  | .error _ => throw "corrupt zlib stream"

/-- The Paeth predictor. -/
def paeth (a b c : Nat) : Nat :=
  let p : Int := a + b - c
  let pa := (p - a).natAbs
  let pb := (p - b).natAbs
  let pc := (p - c).natAbs
  if pa ≤ pb && pa ≤ pc then a else if pb ≤ pc then b else c

/-- Undoes the filter of one row, given the previous row of the pass. -/
def unfilter (kind : Nat) (bpp : Nat) (row prev : ByteArray) : Except String ByteArray := do
  if kind > 4 then throw "invalid filter method"
  let mut out := ByteArray.emptyWithCapacity row.size
  for i in [0:row.size] do
    let x := (row.get! i).toNat
    let a := if i ≥ bpp then (out.get! (i - bpp)).toNat else 0
    let b := (prev.get! i).toNat
    let c := if i ≥ bpp then (prev.get! (i - bpp)).toNat else 0
    let pred := match kind with
      | 1 => a
      | 2 => b
      | 3 => (a + b) / 2
      | 4 => paeth a b c
      | _ => 0
    out := out.push (UInt8.ofNat ((x + pred) % 256))
  return out

/-- The samples of an unfiltered row: `count` samples of `bits` bits each. -/
def rowSamples (row : ByteArray) (bits count : Nat) : Array Nat := Id.run do
  let mut out := Array.emptyWithCapacity count
  for k in [0:count] do
    if bits == 16 then
      out := out.push ((row.get! (2 * k)).toNat * 256 + (row.get! (2 * k + 1)).toNat)
    else if bits == 8 then
      out := out.push (row.get! k).toNat
    else
      let bit := k * bits
      let byte := (row.get! (bit / 8)).toNat
      let shift := 8 - bits - bit % 8
      out := out.push ((byte >>> shift) % Nat.pow 2 bits)
  return out

/-- The interlace passes: first column and row, and steps. -/
def adam7 : List (Nat × Nat × Nat × Nat) :=
  [(0, 0, 8, 8), (4, 0, 8, 8), (0, 4, 4, 8), (2, 0, 4, 4), (0, 2, 2, 4), (1, 0, 2, 2), (0, 1, 1, 2)]

/-- Cells in a pass along one axis. -/
def passCells (size first step : Nat) : Nat := if size > first then (size - first + step - 1) / step else 0

/-- The stored samples of every pixel, in raster order. -/
def storedSamples (h : Header) (raw : ByteArray) : Except String (Array Nat) := do
  let ch := h.channels
  let bpp := max 1 (ch * h.bitDepth / 8)
  let passes := if h.interlaced then adam7 else [(0, 0, 1, 1)]
  let needed := passes.foldl (fun acc (x0, y0, dx, dy) =>
    let pw := passCells h.width x0 dx
    let ph := passCells h.height y0 dy
    if pw == 0 || ph == 0 then acc else acc + ph * (1 + (pw * ch * h.bitDepth + 7) / 8)) 0
  if raw.size < needed then throw "unexpected end of image data"
  let mut pixels : Array Nat := Array.replicate (h.width * h.height * ch) 0
  let mut pos := 0
  for (x0, y0, dx, dy) in passes do
    let pw := passCells h.width x0 dx
    let ph := passCells h.height y0 dy
    if pw == 0 || ph == 0 then continue
    let rowBytes := (pw * ch * h.bitDepth + 7) / 8
    let mut prev := ByteArray.mk (Array.replicate rowBytes 0)
    for r in [0:ph] do
      if pos + 1 + rowBytes > raw.size then throw "unexpected end of image data"
      let kind := (raw.get! pos).toNat
      let row ← unfilter kind bpp (raw.extract (pos + 1) (pos + 1 + rowBytes)) prev
      pos := pos + 1 + rowBytes
      prev := row
      let samples := rowSamples row h.bitDepth (pw * ch)
      for c in [0:pw] do
        let px := (y0 + r * dy) * h.width + (x0 + c * dx)
        for k in [0:ch] do
          pixels := pixels.set! (px * ch + k) samples[c * ch + k]!
  return pixels

/-- The colour type a header decodes to. -/
def outputColor (h : Header) (hasTrns : Bool) : ColorType :=
  let wide := h.bitDepth == 16
  match h.colorType with
  | 0 => if hasTrns then (if wide then .la16 else .la8) else (if wide then .l16 else .l8)
  | 2 => if hasTrns then (if wide then .rgba16 else .rgba8) else (if wide then .rgb16 else .rgb8)
  | 3 => if hasTrns then .rgba8 else .rgb8
  | 4 => if wide then .la16 else .la8
  | _ => if wide then .rgba16 else .rgba8

/-- The stored samples of a pixel as a list. -/
def pixelAt (stored : Array Nat) (ch p : Nat) : List Nat :=
  (List.range ch).map fun k => stored[p * ch + k]!

/-- The value of the transparency chunk's colour, one number per channel. -/
def trnsColor (h : Header) (t : ByteArray) : List Nat :=
  if h.bitDepth == 16 then (List.range (t.size / 2)).map fun k => (t.get! (2 * k)).toNat * 256 + (t.get! (2 * k + 1)).toNat
  else t.toList.map (·.toNat)

/-- Expands stored samples to the decoded colour type. -/
def expand (c : Chunks) (stored : Array Nat) : Array Nat := Id.run do
  let h := c.header
  let ch := h.channels
  let scale := if h.colorType == 0 && h.bitDepth < 8 then 255 / (Nat.pow 2 h.bitDepth - 1) else 1
  let full := if h.bitDepth == 16 then 65535 else 255
  let mut out : Array Nat := #[]
  for p in [0:h.width * h.height] do
    let px := pixelAt stored ch p
    match h.colorType, c.trns with
    | 3, trns =>
      let palette := c.palette.getD ByteArray.empty
      let i := px.headD 0
      let entries := palette.size / 3
      let alphas := match trns with
        | some t => if t.size ≤ entries then t else ByteArray.empty
        | none => ByteArray.empty
      let rgb := if i < entries then [palette.get! (3 * i), palette.get! (3 * i + 1), palette.get! (3 * i + 2)].map (·.toNat)
        else [0, 0, 0]
      out := out ++ rgb.toArray
      if trns.isSome then out := out.push (if i < alphas.size then (alphas.get! i).toNat else 255)
    | 0, some t =>
      out := out.push (px.headD 0 * scale)
      out := out.push (if px == trnsColor h t then 0 else full)
    | 2, some t =>
      out := out ++ px.toArray
      out := out.push (if px == trnsColor h t then 0 else full)
    | 0, none => out := out.push (px.headD 0 * scale)
    | _, _ => out := out ++ px.toArray
  return out

/-- Decodes a PNG image. -/
def decode (data : ByteArray) : Except String Raster := do
  let c ← readChunks data
  let color := outputColor c.header c.trns.isSome
  if pixelBytes c.header.width c.header.height color > maxPixelBytes then throw "image too large"
  let raw ← unzlib c.data
  let stored ← storedSamples c.header raw
  pure ⟨c.header.width, c.header.height, color, expand c stored⟩

/-! ## Encoding -/

/-- A big-endian 32-bit number as bytes. -/
def be32Bytes (n : Nat) : ByteArray :=
  ⟨#[UInt8.ofNat (n / 16777216 % 256), UInt8.ofNat (n / 65536 % 256), UInt8.ofNat (n / 256 % 256),
    UInt8.ofNat (n % 256)]⟩

/-- A chunk: length, type, data and CRC. -/
def chunk (kind : String) (body : ByteArray) : ByteArray :=
  let typed := kind.toUTF8 ++ body
  be32Bytes body.size ++ typed ++ be32Bytes (Crc32.checksum typed).toNat

/-- The Adler-32 checksum. -/
def adler32 (d : ByteArray) : Nat :=
  let (a, b) := d.foldl (fun (a, b) x => let a := (a + x.toNat) % 65521; (a, (b + a) % 65521)) (1, 0)
  b * 65536 + a

/-- A zlib stream of stored DEFLATE blocks. -/
def zlibStored (d : ByteArray) : ByteArray := Id.run do
  let mut out : ByteArray := ⟨#[0x78, 0x01]⟩
  let blocks := max 1 ((d.size + 65534) / 65535)
  for k in [0:blocks] do
    let part := d.extract (k * 65535) ((k + 1) * 65535)
    let last := if k + 1 == blocks then 1 else 0
    let len := part.size
    let nlen := 65535 - len
    out := out ++ ⟨#[UInt8.ofNat last, UInt8.ofNat (len % 256), UInt8.ofNat (len / 256),
      UInt8.ofNat (nlen % 256), UInt8.ofNat (nlen / 256)]⟩ ++ part
  return out ++ be32Bytes (adler32 d)

/-- The PNG colour type code of a raster colour type. -/
def colorCode : ColorType → Nat
  | .l8 | .l16 => 0
  | .rgb8 | .rgb16 => 2
  | .la8 | .la16 => 4
  | .rgba8 | .rgba16 => 6

/-- Encodes a raster as a PNG. -/
def encode (r : Raster) : ByteArray := Id.run do
  let wide := r.color.wide
  let ch := r.color.channels
  let mut raw := ByteArray.empty
  for y in [0:r.height] do
    raw := raw.push 0
    for k in [0:r.width * ch] do
      let v := r.samples[(y * r.width) * ch + k]!
      if wide then raw := (raw.push (UInt8.ofNat (v / 256))).push (UInt8.ofNat (v % 256))
      else raw := raw.push (UInt8.ofNat v)
  let ihdr := be32Bytes r.width ++ be32Bytes r.height ++
    ⟨#[if wide then 16 else 8, UInt8.ofNat (colorCode r.color), 0, 0, 0]⟩
  return signature ++ chunk "IHDR" ihdr ++ chunk "IDAT" (zlibStored raw) ++ chunk "IEND" ByteArray.empty

end ChartCatalog.Png
