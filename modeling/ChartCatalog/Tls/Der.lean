/-!
# DER certificates as trust anchors

A trust anchor is what a TLS client keeps of a root certificate: its subject, its public
key, and its name constraints if it has any. Taking one from a certificate's DER bytes
checks the certificate's structure, not its signature or its dates.

DER elements are read strictly: one-byte tags (the high tag form is refused), lengths in
the shortest form and at most two bytes long (`0x81` only for lengths of 128 and more,
`0x82` only for 256 and more), and content that must fit in the input.

An X.509 version 3 certificate is a sequence of the signed part, the signature algorithm
and a bit string with no unused bits, and nothing after it. The signed part holds, in
order, `[0] { INTEGER 2 }`, a serial number (any integer), the signature algorithm (the
same bytes as the outer one), the issuer, the validity, the subject and the public key
(each a sequence), and optionally `[3]` with a non-empty sequence of extensions. An
extension is an object identifier, an optional boolean `critical` (`0xFF` or `0x00`) and
an octet string. Of the extensions under `2.5.29`, key usage is accepted as it is;
subject alternative name, basic constraints, name constraints and extended key usage
may each appear once and hold exactly one sequence; any other extension is refused only
when it is critical.

A certificate with no version field is read as version 1: serial, signature algorithm,
issuer, validity, subject and public key, with no extensions, then the outer signature
algorithm and bit string. Any other version is refused.
-/

set_option autoImplicit false

namespace ChartCatalog.Der

/-- Why DER bytes are not a certificate. -/
inductive DerError where
  /-- Bytes that are not the expected DER element. -/
  | badDer
  /-- A version other than 3, or a missing or malformed version field. -/
  | unsupportedVersion
  /-- An inner signature algorithm that differs from the outer one. -/
  | algorithmMismatch
  /-- Bytes left after the extensions. -/
  | malformedExtensions
  /-- A remembered extension given twice. -/
  | extensionValueInvalid
  /-- A critical extension this reading does not know. -/
  | unsupportedCriticalExtension
  deriving DecidableEq, Repr

/-- What is kept of a root certificate. -/
structure TrustAnchor where
  subject : List UInt8
  publicKey : List UInt8
  nameConstraints : Option (List UInt8)
  deriving DecidableEq, Repr

/-! ## Elements -/

/-- A reader of DER elements over the bytes still to read. -/
abbrev Reader (α : Type) := StateT (List UInt8) (Except DerError) α

/-- Tags of the elements read here. -/
def tagBoolean : UInt8 := 0x01
/-- The `INTEGER` tag. -/
def tagInteger : UInt8 := 0x02
/-- The `BIT STRING` tag. -/
def tagBitString : UInt8 := 0x03
/-- The `OCTET STRING` tag. -/
def tagOctetString : UInt8 := 0x04
/-- The `OBJECT IDENTIFIER` tag. -/
def tagOid : UInt8 := 0x06
/-- The `SEQUENCE` tag. -/
def tagSequence : UInt8 := 0x30
/-- The tag of a constructed context-specific `[0]`. -/
def tagVersion : UInt8 := 0xA0
/-- The tag of a constructed context-specific `[3]`. -/
def tagExtensions : UInt8 := 0xA3

/-- A length in its shortest form of at most two bytes, and the bytes after it. -/
def readLength : List UInt8 → Option (Nat × List UInt8)
  | b :: rest =>
    if b < 0x80 then some (b.toNat, rest)
    else if b == 0x81 then
      match rest with
      | c :: more => if c < 0x80 then none else some (c.toNat, more)
      | [] => none
    else if b == 0x82 then
      match rest with
      | c :: d :: more =>
        let n := c.toNat * 256 + d.toNat
        if n < 256 then none else some (n, more)
      | _ => none
    else none
  | [] => none

/-- An element at the front of some bytes: its tag, its content and the bytes after it. -/
def readElement (bytes : List UInt8) : Option (UInt8 × List UInt8 × List UInt8) :=
  match bytes with
  | tag :: rest =>
    if tag &&& 0x1F == 0x1F then none
    else do
      let (n, rest) ← readLength rest
      if rest.length < n then none else some (tag, rest.take n, rest.drop n)
  | [] => none

/-- The content of the next element, which must have the given tag; `err` otherwise. -/
def element (tag : UInt8) (err : DerError) : Reader (List UInt8) := do
  match readElement (← get) with
  | some (t, content, rest) =>
    if t == tag then
      set rest
      pure content
    else throw err
  | none => throw err

/-- Whether all bytes have been read. -/
def atEnd : Reader Bool := do return (← get).isEmpty

/-- Whether the next byte is a given tag. -/
def peek (tag : UInt8) : Reader Bool := do return (← get).head? == some tag

/-- The next byte. -/
def byte : Reader UInt8 := do
  match (← get) with
  | b :: rest =>
    set rest
    pure b
  | [] => throw .badDer

/-- Reads all of some bytes: `err` when bytes are left over. -/
def within {α : Type} (bytes : List UInt8) (err : DerError) (r : Reader α) : Except DerError α :=
  match r.run bytes with
  | .ok (a, []) => .ok a
  | .ok _ => .error err
  | .error e => .error e

/-- Reads the content of the next element, of the given tag, all of it. -/
def nested {α : Type} (tag : UInt8) (err : DerError) (r : Reader α) : Reader α := do
  let content ← element tag err
  match within content err r with
  | .ok a => pure a
  | .error e => throw e

/-- A bit string with no unused bits. -/
def bitString : Reader (List UInt8) :=
  nested tagBitString .badDer do
    if (← byte) != 0 then throw .badDer
    let rest ← get
    set ([] : List UInt8)
    pure rest

/-- A small non-negative integer, in its shortest form. -/
def smallNatural : Reader Nat := do
  match (← element tagInteger .badDer) with
  | [b] => if b < 0x80 then pure b.toNat else throw .badDer
  | [0, b] => if b < 0x80 then throw .badDer else pure b.toNat
  | _ => throw .badDer

/-- An optional boolean, false when absent. -/
def optionalBoolean : Reader Bool := do
  if !(← peek tagBoolean) then return false
  nested tagBoolean .badDer do
    match (← byte) with
    | 0xFF => pure true
    | 0x00 => pure false
    | _ => throw .badDer

/-! ## Extensions -/

/-- An extension: its identifier, whether it is critical, and its value. -/
structure Extension where
  id : List UInt8
  critical : Bool
  value : List UInt8

/-- Reads the content of an extension. -/
def extension : Reader Extension := do
  let id ← element tagOid .badDer
  let critical ← optionalBoolean
  let value ← element tagOctetString .badDer
  pure ⟨id, critical, value⟩

/-- The object identifier arc `2.5.29` of certificate extensions, as DER writes it. -/
def extensionArc : List UInt8 := [0x55, 0x1D]

/-- The extensions met so far: the last numbers of those remembered, and the content of
the name constraints. -/
structure Remembered where
  seen : List UInt8
  nameConstraints : Option (List UInt8)

/-- Takes in one extension. -/
def remember (ext : Extension) (r : Remembered) : Except DerError Remembered :=
  let unsupported : Except DerError Remembered :=
    if ext.critical then .error .unsupportedCriticalExtension else .ok r
  match ext.id with
  | [a, b, n] =>
    if [a, b] != extensionArc then unsupported
    else if n == 15 then .ok r
    else if [17, 19, 30, 37].contains n then
      if r.seen.contains n then .error .extensionValueInvalid
      else do
        let content ← within ext.value .badDer (element tagSequence .badDer)
        let constraints := if n == 30 then some content else r.nameConstraints
        pure ⟨n :: r.seen, constraints⟩
    else unsupported
  | _ => unsupported

/-- Reads extensions one after another until the bytes end; at least one is read. -/
def extensionsFrom : Nat → Remembered → Reader Remembered
  | 0, _ => throw .badDer
  | fuel + 1, r => do
    let ext ← nested tagSequence .badDer extension
    let r ← match remember ext r with
      | .ok r => pure r
      | .error e => throw e
    if ← atEnd then pure r else extensionsFrom fuel r

/-- The `[3]` field: a sequence of at least one extension. -/
def extensions : Reader Remembered :=
  nested tagExtensions .malformedExtensions do
    nested tagSequence .badDer do
      extensionsFrom ((← get).length + 1) ⟨[], none⟩

/-! ## Certificates -/

/-- The version field, which must say version 3. -/
def version3 : Reader Unit :=
  nested tagVersion .unsupportedVersion do
    if (← smallNatural) != 2 then throw .unsupportedVersion

/-- The outer sequence's parts: the signed part's content and the signature algorithm. -/
def signedData : Reader (List UInt8 × List UInt8) := do
  let signed ← element tagSequence .badDer
  let algorithm ← element tagSequence .badDer
  let _ ← bitString
  pure (signed, algorithm)

/-- The trust anchor of a version 3 certificate. -/
def anchorV3 (der : List UInt8) : Except DerError TrustAnchor := do
  let (signed, algorithm) ← within der .badDer (nested tagSequence .badDer signedData)
  within signed .badDer do
    version3
    let _ ← element tagInteger .badDer
    if (← element tagSequence .badDer) != algorithm then throw .algorithmMismatch
    let _ ← element tagSequence .badDer
    let _ ← element tagSequence .badDer
    let subject ← element tagSequence .badDer
    let publicKey ← element tagSequence .badDer
    if ← atEnd then return ⟨subject, publicKey, none⟩
    let r ← extensions
    pure ⟨subject, publicKey, r.nameConstraints⟩

/-- The trust anchor of a version 1 certificate. -/
def anchorV1 (der : List UInt8) : Except DerError TrustAnchor :=
  within der .badDer do
    nested tagSequence .badDer do
      let anchor ← nested tagSequence .badDer do
        let _ ← element tagInteger .badDer
        let _ ← element tagSequence .badDer
        let _ ← element tagSequence .badDer
        let _ ← element tagSequence .badDer
        let subject ← element tagSequence .badDer
        let publicKey ← element tagSequence .badDer
        pure (⟨subject, publicKey, none⟩ : TrustAnchor)
      let _ ← element tagSequence .badDer
      let _ ← element tagBitString .badDer
      pure anchor

/-- The trust anchor of a certificate: read as version 3, and as version 1 when the
version field is what failed. -/
def trustAnchor (der : ByteArray) : Except DerError TrustAnchor :=
  match anchorV3 der.toList with
  | .error .unsupportedVersion =>
    match anchorV1 der.toList with
    | .ok anchor => .ok anchor
    | .error _ => .error .badDer
  | result => result

end ChartCatalog.Der
