import ChartCatalog.Image.Png
import ChartCatalog.Image.Jpeg
import ChartCatalog.Image.Resize
import ChartCatalog.Error

/-!
# Icon normalisation

Chart icons are stored as PNG no larger than 160×160. A raster icon is recognised by
its signature (PNG or JPEG; any other format is refused), decoded, scaled down to fit
the bound when either side exceeds it, and encoded as PNG with its colour type kept.

Images whose decoded pixels would take more than 512 MiB are refused by the decoders
before any pixel is decoded.
-/

set_option autoImplicit false

namespace ChartCatalog.Icon

open Image

/-- The side of the box an icon must fit. -/
def iconSize : Nat := 160

/-- The content type of normalised icons. -/
def contentType : String := "image/png"

/-- The raster image formats an icon may be in. -/
inductive Format where
  | png
  | jpeg
  deriving DecidableEq, Repr

/-- The format a signature announces. -/
def sniff (data : ByteArray) : Option Format :=
  if Png.hasSignature data then some .png
  else if data.size ≥ 3 && data.get! 0 == 0xFF && data.get! 1 == 0xD8 && data.get! 2 == 0xFF then some .jpeg
  else none

/-- The error of an icon that cannot be decoded. -/
def unsupported (why : String) : CatalogError := .artifact ("Unsupported icon image: " ++ why)

/-- Decodes a raster icon. -/
def decode (data : ByteArray) : Outcome Raster :=
  let decoded := match sniff data with
    | some .png => Png.decode data
    | some .jpeg => Jpeg.decode data
    | none => .error "the image format could not be determined"
  match decoded with
  | .ok r => .ok r
  | .error e => .error (unsupported e)

/-- The raster an icon becomes: scaled to fit the icon box when it is larger. -/
def fit (r : Raster) : Raster :=
  if r.width > iconSize || r.height > iconSize then
    let (w, h) := fitDimensions r.width r.height iconSize iconSize
    r.resizeExact w h
  else r

/-- Decodes an icon, fits it into the icon box and encodes it as PNG. -/
def normalize (data : ByteArray) : Outcome ByteArray := do
  let r ← decode data
  pure (Png.encode (fit r))

/-- Fitting never enlarges: both sides of a fitted raster are at most the bound when
the raster needed scaling. -/
theorem fit_small (r : Raster) (hw : r.width ≤ iconSize) (hh : r.height ≤ iconSize) :
    fit r = r := by
  unfold fit
  have : ¬ (r.width > iconSize || r.height > iconSize) = true := by
    simp only [Bool.or_eq_true, decide_eq_true_eq, not_or]
    omega
  simp [this]

end ChartCatalog.Icon
