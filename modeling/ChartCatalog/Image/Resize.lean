import ChartCatalog.Image.Raster

/-!
# Resizing rasters

Icons larger than a bound are scaled down to fit it, keeping their aspect ratio. The
target size is computed in double precision: the scale is the smaller of the two
ratios of bound to side, each side is multiplied by it and rounded half away from
zero, and no side drops below one pixel.

Resampling is separable Lanczos-3: first along columns, then along rows. Each output
sample is a weighted sum of the input samples within three (scaled) pixels of its
centre, with weights normalised to sum to one; the result is clamped to the sample
range and rounded.
-/

set_option autoImplicit false

namespace ChartCatalog.Image

/-- The size an image of `width` by `height` takes when fitted into `boundW` by
`boundH` with its aspect ratio kept. -/
def fitDimensions (width height boundW boundH : Nat) : Nat × Nat :=
  let wratio := boundW.toFloat / width.toFloat
  let hratio := boundH.toFloat / height.toFloat
  let ratio := if wratio < hratio then wratio else hratio
  let nw := max (width.toFloat * ratio).round.toUInt64.toNat 1
  let nh := max (height.toFloat * ratio).round.toUInt64.toNat 1
  (nw, nh)

/-- The normalised sinc function. -/
def sinc (t : Float) : Float :=
  if t == 0 then 1 else
    let a := t * 3.141592653589793
    Float.sin a / a

/-- The Lanczos-3 kernel. -/
def lanczos3 (x : Float) : Float :=
  if x.abs < 3 then sinc x * sinc (x / 3) else 0

/-- The input range and normalised weights of each output position along an axis of
`size` input samples scaled to `newSize`. -/
def axisWeights (size newSize : Nat) : Array (Nat × Array Float) := Id.run do
  let ratio := size.toFloat / newSize.toFloat
  let sratio := if ratio < 1 then 1 else ratio
  let support := 3 * sratio
  let mut out := #[]
  for o in [0:newSize] do
    let center := (o.toFloat + 0.5) * ratio
    let leftF := (center - support).floor
    let left := if leftF < 0 then 0 else min leftF.toUInt64.toNat (size - 1)
    let rightF := (center + support).ceil
    let right := if rightF < (left + 1).toFloat then left + 1 else min rightF.toUInt64.toNat size
    let c := center - 0.5
    let mut ws : Array Float := #[]
    let mut sum : Float := 0
    for i in [left:right] do
      let w := lanczos3 ((i.toFloat - c) / sratio)
      ws := ws.push w
      sum := sum + w
    out := out.push (left, ws.map (· / sum))
  return out

/-- Resizes a raster to exactly `newWidth` by `newHeight` with Lanczos-3 resampling. -/
def Raster.resizeExact (r : Raster) (newWidth newHeight : Nat) : Raster := Id.run do
  let ch := r.color.channels
  let maxV := r.color.maxSample.toFloat
  -- along columns: height changes
  let vw := axisWeights r.height newHeight
  let mut mid : Array Float := Array.replicate (r.width * newHeight * ch) 0
  for y in [0:newHeight] do
    let (left, ws) := vw[y]!
    for x in [0:r.width] do
      for k in [0:ch] do
        let mut t : Float := 0
        for i in [0:ws.size] do
          t := t + (r.samples[((left + i) * r.width + x) * ch + k]!).toFloat * ws[i]!
        mid := mid.set! ((y * r.width + x) * ch + k) t
  -- along rows: width changes
  let hw := axisWeights r.width newWidth
  let mut out : Array Nat := Array.replicate (newWidth * newHeight * ch) 0
  for x in [0:newWidth] do
    let (left, ws) := hw[x]!
    for y in [0:newHeight] do
      for k in [0:ch] do
        let mut t : Float := 0
        for i in [0:ws.size] do
          t := t + mid[(y * r.width + left + i) * ch + k]! * ws[i]!
        let clamped := if t < 0 then 0 else if t > maxV then maxV else t
        out := out.set! ((y * newWidth + x) * ch + k) clamped.round.toUInt64.toNat
  return ⟨newWidth, newHeight, r.color, out⟩

end ChartCatalog.Image
