import ChartCatalog.Text.Base64

/-!
# PEM bundles

A PEM bundle is text whose sections each carry base64 between a boundary line
`-----BEGIN <label>-----` and the line `-----END <label>-----`. The certificates of a
bundle are the sections labelled `CERTIFICATE`, decoded; sections of any other label are
decoded and dropped, and text outside sections is ignored.

Lines end at a line feed. The reading is line by line:

* a line that starts with `-----BEGIN ` opens a section, also inside one; its label is
  what stands between `-----BEGIN ` and the five dashes that end the line, where spaces,
  carriage returns and line feeds may follow or sit between those dashes; a line that
  does not end in exactly five such dashes is malformed;
* inside a section, a line that starts with the section's closing boundary ends it: the
  base64 gathered so far must be canonical (padded, no stray bits), and the section is
  then a certificate or dropped, by its label;
* any other line inside a section adds its text, less the spaces, carriage returns and
  line feeds at its end, to the section's base64;
* a bundle that ends inside a section is malformed.

Opening a section inside another keeps the base64 already gathered, so the two run
together and the first boundary's label is forgotten.
-/

set_option autoImplicit false

namespace ChartCatalog.Pem

/-- Why a bundle cannot be read. -/
inductive PemError where
  /-- A `-----BEGIN ` line that does not end in five dashes. -/
  | badBoundary (line : List UInt8)
  /-- A section whose base64 is not canonical. -/
  | badBase64
  /-- A section still open at the end of the bundle. -/
  | unclosed (closing : List UInt8)
  deriving DecidableEq, Repr

/-- The bytes of an ASCII text. -/
def ascii (s : String) : List UInt8 := s.toList.map fun c => UInt8.ofNat c.toNat

/-- The byte of the line feed. -/
def lineFeed : UInt8 := 10

/-- Whether a byte may follow or sit among the dashes that end a boundary line. -/
def isLineSpace (b : UInt8) : Bool := b == 10 || b == 13 || b == 32

/-- The lines of a text, each with its line feed when it has one. -/
def lines (bytes : List UInt8) : List (List UInt8) :=
  let (done, current) := bytes.foldl (fun (done, current) b =>
    if b == lineFeed then (done.push (current.push b).toList, #[]) else (done, current.push b))
    ((#[] : Array (List UInt8)), (#[] : Array UInt8))
  (if current.isEmpty then done else done.push current.toList).toList

/-- The dashes at the end of a line, walking back over line spaces: how many there are and
where the first of them stands. -/
def trailingDashes (line : List UInt8) : Nat × Nat :=
  let bytes := line.toArray
  let rec walk : Nat → Nat → Nat → Nat × Nat
    | 0, count, first => (count, first)
    | i + 1, count, first =>
      let b := bytes.getD i 0
      if b == 45 then walk i (count + 1) i
      else if isLineSpace b then walk i count first
      else (count, first)
  walk line.length 0 line.length

/-- The label of a `-----BEGIN ` line. -/
def label? (line : List UInt8) : Except PemError (List UInt8) :=
  let (count, first) := trailingDashes line
  if count == 5 then .ok ((line.take first).drop 11) else .error (.badBoundary line)

/-- The text of a line without the spaces, carriage returns and line feeds at its end. -/
def trimEnd (line : List UInt8) : List UInt8 := (line.reverse.dropWhile isLineSpace).reverse

/-- The bytes of base64 text given as bytes. -/
def decodeBase64 (text : List UInt8) : Option ByteArray :=
  (Base64.decodeInto? #[] (text.map fun b => Char.ofNat b.toNat)).map ByteArray.mk

/-- An open section: its label and closing boundary. -/
structure Section where
  label : List UInt8
  closing : List UInt8

/-- Where the reading stands between lines. -/
structure Reading where
  /-- The certificates found so far, in order. -/
  found : Array ByteArray
  /-- The open section, if any. -/
  open? : Option Section
  /-- The base64 gathered since the last section ended. -/
  gathered : Array UInt8

/-- Reads one line. -/
def step (r : Reading) (line : List UInt8) : Except PemError Reading :=
  if line.take 11 == ascii "-----BEGIN " then do
    let label ← label? line
    pure { r with open? := some ⟨label, ascii "-----END " ++ label ++ ascii "-----"⟩ }
  else
    match r.open? with
    | none => .ok r
    | some s =>
      if line.take s.closing.length == s.closing then
        match decodeBase64 r.gathered.toList with
        | none => .error .badBase64
        | some der =>
          let found := if s.label == ascii "CERTIFICATE" then r.found.push der else r.found
          .ok ⟨found, none, #[]⟩
      else .ok { r with gathered := r.gathered ++ (trimEnd line).toArray }

/-- The certificates of a bundle, in order, or why it cannot be read. -/
def certificates (bundle : ByteArray) : Except PemError (List ByteArray) := do
  let r ← (lines bundle.toList).foldlM step ⟨#[], none, #[]⟩
  match r.open? with
  | some s => .error (.unclosed s.closing)
  | none => .ok r.found.toList

/-- Whether a byte string contains another. -/
def containsBytes (haystack needle : List UInt8) : Bool :=
  let rec scan : List UInt8 → Bool
    | [] => needle.isEmpty
    | b :: rest => (b :: rest).take needle.length == needle || scan rest
  scan haystack

/-- The text that opens a certificate section. -/
def certificateMarker : List UInt8 := ascii "-----BEGIN CERTIFICATE-----"

/-- Whether a bundle mentions a certificate at all, wherever the text stands. -/
def mentionsCertificate (bundle : ByteArray) : Bool :=
  containsBytes bundle.toList certificateMarker

end ChartCatalog.Pem
