import ChartCatalog.Text.Hex

/-!
# SHA-256

The FIPS 180-4 hash. Repository indexes are identified by the hash of their raw bytes
and chart archives carry the hash of their bytes in the index; both are compared as
lowercase hexadecimal text (`hexDigest`).

The message is padded with a one bit, zeros and its 64-bit length to a whole number of
64-byte blocks; each block is expanded to a schedule of 64 words and folded into the
eight-word state by 64 rounds.
-/

set_option autoImplicit false

namespace ChartCatalog.Sha256

/-- The 64 round constants: the first 32 bits of the fractional parts of the cube roots
of the first 64 primes. -/
def roundConstants : Array UInt32 := #[
  0x428a2f98, 0x71374491, 0xb5c0fbcf, 0xe9b5dba5, 0x3956c25b, 0x59f111f1, 0x923f82a4, 0xab1c5ed5,
  0xd807aa98, 0x12835b01, 0x243185be, 0x550c7dc3, 0x72be5d74, 0x80deb1fe, 0x9bdc06a7, 0xc19bf174,
  0xe49b69c1, 0xefbe4786, 0x0fc19dc6, 0x240ca1cc, 0x2de92c6f, 0x4a7484aa, 0x5cb0a9dc, 0x76f988da,
  0x983e5152, 0xa831c66d, 0xb00327c8, 0xbf597fc7, 0xc6e00bf3, 0xd5a79147, 0x06ca6351, 0x14292967,
  0x27b70a85, 0x2e1b2138, 0x4d2c6dfc, 0x53380d13, 0x650a7354, 0x766a0abb, 0x81c2c92e, 0x92722c85,
  0xa2bfe8a1, 0xa81a664b, 0xc24b8b70, 0xc76c51a3, 0xd192e819, 0xd6990624, 0xf40e3585, 0x106aa070,
  0x19a4c116, 0x1e376c08, 0x2748774c, 0x34b0bcb5, 0x391c0cb3, 0x4ed8aa4a, 0x5b9cca4f, 0x682e6ff3,
  0x748f82ee, 0x78a5636f, 0x84c87814, 0x8cc70208, 0x90befffa, 0xa4506ceb, 0xbef9a3f7, 0xc67178f2]

/-- The initial state: the first 32 bits of the fractional parts of the square roots of
the first eight primes. -/
def initialState : Array UInt32 :=
  #[0x6a09e667, 0xbb67ae85, 0x3c6ef372, 0xa54ff53a, 0x510e527f, 0x9b05688c, 0x1f83d9ab, 0x5be0cd19]

/-- Rotation of a word to the right by `n` places, for `0 < n < 32`. -/
@[inline] def rotr (x : UInt32) (n : UInt32) : UInt32 := (x >>> n) ||| (x <<< (32 - n))

/-- The small sigma functions of the message schedule. -/
@[inline] def sigma0 (x : UInt32) : UInt32 := rotr x 7 ^^^ rotr x 18 ^^^ (x >>> 3)
@[inline] def sigma1 (x : UInt32) : UInt32 := rotr x 17 ^^^ rotr x 19 ^^^ (x >>> 10)

/-- The big sigma functions of the compression rounds. -/
@[inline] def bigSigma0 (x : UInt32) : UInt32 := rotr x 2 ^^^ rotr x 13 ^^^ rotr x 22
@[inline] def bigSigma1 (x : UInt32) : UInt32 := rotr x 6 ^^^ rotr x 11 ^^^ rotr x 25

/-- The number of zero bytes between the closing one bit and the length, chosen so that
the padded message fills whole blocks. -/
def paddingZeros (size : Nat) : Nat := (119 - size % 64) % 64

/-- The message bit length as eight big-endian bytes. -/
def lengthBytes (size : Nat) : ByteArray :=
  let bits := size * 8
  ByteArray.mk (Array.ofFn fun (i : Fin 8) => UInt8.ofNat (bits / Nat.pow 2 (56 - 8 * i.val)))

/-- The padded message: the message, a byte with the closing one bit, zeros, and the
length. -/
def pad (message : ByteArray) : ByteArray :=
  (message.push 0x80 ++ ByteArray.mk (Array.replicate (paddingZeros message.size) 0)) ++
    lengthBytes message.size

/-- The big-endian word at byte offset `i`; bytes past the end read as zero. -/
@[inline] def wordAt (bytes : ByteArray) (i : Nat) : UInt32 :=
  let b (k : Nat) : UInt32 := (bytes.get! (i + k)).toUInt32
  (b 0 <<< 24) ||| (b 1 <<< 16) ||| (b 2 <<< 8) ||| b 3

/-- The 64-word schedule of the block that starts at byte `start`. -/
def schedule (block : ByteArray) (start : Nat) : Array UInt32 := Id.run do
  let mut w : Array UInt32 := Array.emptyWithCapacity 64
  for i in [0:16] do
    w := w.push (wordAt block (start + 4 * i))
  for i in [16:64] do
    w := w.push (w[i - 16]! + sigma0 w[i - 15]! + w[i - 7]! + sigma1 w[i - 2]!)
  return w

/-- One block folded into the eight-word state. -/
def compress (state : Array UInt32) (block : ByteArray) (start : Nat) : Array UInt32 := Id.run do
  let w := schedule block start
  let mut a := state[0]!
  let mut b := state[1]!
  let mut c := state[2]!
  let mut d := state[3]!
  let mut e := state[4]!
  let mut f := state[5]!
  let mut g := state[6]!
  let mut h := state[7]!
  for i in [0:64] do
    let t1 := h + bigSigma1 e + ((e &&& f) ^^^ (~~~e &&& g)) + roundConstants[i]! + w[i]!
    let t2 := bigSigma0 a + ((a &&& b) ^^^ (a &&& c) ^^^ (b &&& c))
    h := g
    g := f
    f := e
    e := d + t1
    d := c
    c := b
    b := a
    a := t1 + t2
  return #[state[0]! + a, state[1]! + b, state[2]! + c, state[3]! + d,
    state[4]! + e, state[5]! + f, state[6]! + g, state[7]! + h]

/-- The state words as 32 big-endian bytes. -/
def stateBytes (state : Array UInt32) : ByteArray :=
  ByteArray.mk (Array.ofFn fun (i : Fin 32) =>
    (state[i.val / 4]! >>> (UInt32.ofNat (24 - 8 * (i.val % 4)))).toUInt8)

/-- The 32-byte SHA-256 digest of a message. -/
def digest (message : ByteArray) : ByteArray :=
  let padded := pad message
  let blocks := padded.size / 64
  stateBytes ((List.range blocks).foldl (fun state k => compress state padded (64 * k)) initialState)

/-- The digest as lowercase hexadecimal text. -/
def hexDigest (message : ByteArray) : String := Text.hexOfBytes (digest message)

/-- Padding fills whole blocks. -/
theorem pad_size_mod (message : ByteArray) : (pad message).size % 64 = 0 := by
  simp only [pad, ByteArray.size_append, ByteArray.size_push, lengthBytes, paddingZeros]
  simp only [ByteArray.size, Array.size_replicate, Array.size_ofFn]
  omega

end ChartCatalog.Sha256
