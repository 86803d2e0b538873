/-!
# Raster images

A raster is a width, a height, a colour type and the samples of its pixels, row by
row, each pixel's channels together. The colour types are the ones the icon pipeline
meets: luma, luma with alpha, RGB and RGBA, at 8 or 16 bits per sample.

Converting to 8-bit RGBA spreads luma over the three colour channels, makes a missing
alpha opaque, and scales a 16-bit sample `v` to the nearest 8-bit value,
`(v + 128) / 257`.
-/

set_option autoImplicit false

namespace ChartCatalog.Image

/-- The colour type of a raster. -/
inductive ColorType where
  | l8
  | la8
  | rgb8
  | rgba8
  | l16
  | la16
  | rgb16
  | rgba16
  deriving DecidableEq, Repr, Inhabited

namespace ColorType

/-- The name of the colour type. -/
def name : ColorType → String
  | .l8 => "L8"
  | .la8 => "La8"
  | .rgb8 => "Rgb8"
  | .rgba8 => "Rgba8"
  | .l16 => "L16"
  | .la16 => "La16"
  | .rgb16 => "Rgb16"
  | .rgba16 => "Rgba16"

/-- Channels per pixel. -/
def channels : ColorType → Nat
  | .l8 | .l16 => 1
  | .la8 | .la16 => 2
  | .rgb8 | .rgb16 => 3
  | .rgba8 | .rgba16 => 4

/-- Whether samples have 16 bits. -/
def wide : ColorType → Bool
  | .l16 | .la16 | .rgb16 | .rgba16 => true
  | _ => false

/-- The largest sample value. -/
def maxSample (c : ColorType) : Nat := if c.wide then 65535 else 255

/-- Whether the colour type has an alpha channel. -/
def hasAlpha : ColorType → Bool
  | .la8 | .la16 | .rgba8 | .rgba16 => true
  | _ => false

/-- Whether the colour type has colour channels. -/
def isColor : ColorType → Bool
  | .rgb8 | .rgb16 | .rgba8 | .rgba16 => true
  | _ => false

end ColorType

/-- A raster image. -/
structure Raster where
  width : Nat
  height : Nat
  color : ColorType
  /-- `width * height * color.channels` samples, row by row. -/
  samples : Array Nat
  deriving Inhabited

/-- The most bytes decoded pixels may take; larger images are refused before
decoding. -/
def maxPixelBytes : Nat := 512 * 1024 * 1024

/-- The bytes the pixels of an image take. -/
def pixelBytes (width height : Nat) (color : ColorType) : Nat :=
  width * height * color.channels * (if color.wide then 2 else 1)

/-- An 8-bit sample of a sample of the given width. -/
def toByte (wide : Bool) (v : Nat) : Nat := if wide then (v + 128) / 257 else v

/-- The pixels as 8-bit RGBA, four bytes a pixel. -/
def Raster.rgba8 (r : Raster) : ByteArray := Id.run do
  let n := r.color.channels
  let wide := r.color.wide
  let mut out := ByteArray.emptyWithCapacity (4 * r.width * r.height)
  for p in [0:r.width * r.height] do
    let s (k : Nat) : UInt8 := UInt8.ofNat (toByte wide (r.samples[p * n + k]!))
    match r.color.channels with
    | 1 => out := ((out.push (s 0)).push (s 0)).push (s 0) |>.push 255
    | 2 => out := ((out.push (s 0)).push (s 0)).push (s 0) |>.push (s 1)
    | 3 => out := ((out.push (s 0)).push (s 1)).push (s 2) |>.push 255
    | _ => out := ((out.push (s 0)).push (s 1)).push (s 2) |>.push (s 3)
  return out

end ChartCatalog.Image
