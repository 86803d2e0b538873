/-!
# Punycode

The Bootstring encoding of RFC 3492 with the parameters of IDNA: base 36, `tmin` 1,
`tmax` 26, skew 38, damp 700, initial bias 72 and initial code point 128. A label is
written as its ASCII characters, a hyphen when there are any, and then the other code
points in increasing order, each as the distance from the previous insertion, written
in a variable-length base-36 numeral whose digit thresholds follow an adaptive bias.

Every loop ends by a measure: the bias adaptation divides `delta` by 35, a numeral's
quotient shrinks with each digit, and encoding and decoding consume their input.
-/

set_option autoImplicit false

namespace ChartCatalog.Punycode

/-- The character of a digit: `a`–`z` for 0–25, `0`–`9` for 26–35. -/
def digitChar (d : Nat) : Char :=
  if d < 26 then Char.ofNat (97 + d) else Char.ofNat (22 + d)

/-- The value of a digit character, in either case. -/
def digitValue? (c : Char) : Option Nat :=
  let n := c.toNat
  if 97 ≤ n && n ≤ 122 then some (n - 97)
  else if 65 ≤ n && n ≤ 90 then some (n - 65)
  else if 48 ≤ n && n ≤ 57 then some (n - 22)
  else none

/-- The digit threshold at position `k` for a bias. -/
def threshold (k bias : Nat) : Nat :=
  if k ≤ bias then 1 else if bias + 26 ≤ k then 26 else k - bias

theorem threshold_pos (k bias : Nat) : 1 ≤ threshold k bias := by
  unfold threshold; split <;> (try split) <;> omega

theorem threshold_le (k bias : Nat) : threshold k bias ≤ 26 := by
  unfold threshold; split <;> (try split) <;> omega

/-- Divides `delta` by 35 until it is at most 455, counting 36 for each division. -/
def adaptLoop (delta k : Nat) : Nat × Nat :=
  if 455 < delta then adaptLoop (delta / 35) (k + 36) else (delta, k)
termination_by delta
decreasing_by exact Nat.div_lt_self (by omega) (by omega)

/-- The bias after an insertion. -/
def adapt (delta numPoints : Nat) (first : Bool) : Nat :=
  let d := if first then delta / 700 else delta / 2
  let d := d + d / numPoints
  let (d, k) := adaptLoop d 0
  k + 36 * d / (d + 38)

/-- The variable-length numeral of `q` from position `k`. -/
def encodeNumber (bias k q : Nat) : List Char :=
  let t := threshold k bias
  if q < t then [digitChar q]
  else digitChar (t + (q - t) % (36 - t)) :: encodeNumber bias (k + 36) ((q - t) / (36 - t))
termination_by q
decreasing_by
  have := threshold_pos k bias
  have := threshold_le k bias
  calc (q - threshold k bias) / (36 - threshold k bias)
      ≤ q - threshold k bias := Nat.div_le_self _ _
    _ < q := by omega

/-- The state of encoding: output so far, `delta`, bias and the count of handled points. -/
structure EncodeState where
  out : List Char
  delta : Nat
  bias : Nat
  handled : Nat

/-- One input character seen while inserting the code point `m`. -/
def encodeStep (basicCount m : Nat) (st : EncodeState) (c : Char) : EncodeState :=
  if c.toNat < m then { st with delta := st.delta + 1 }
  else if c.toNat == m then
    { out := st.out ++ encodeNumber st.bias 36 st.delta, delta := 0,
      bias := adapt st.delta (st.handled + 1) (st.handled == basicCount),
      handled := st.handled + 1 }
  else st

/-- Inserts the non-ASCII code points in increasing order. -/
def encodeLoop (input : List Char) (basicCount : Nat) :
    List Nat → Nat → EncodeState → EncodeState
  | [], _, st => st
  | m :: rest, n, st =>
    let st := { st with delta := st.delta + (m - n) * (st.handled + 1) }
    let st := input.foldl (encodeStep basicCount m) st
    encodeLoop input basicCount rest (m + 1) { st with delta := st.delta + 1 }

/-- Inserts into an increasing list without repetition. -/
def insertSorted (x : Nat) : List Nat → List Nat
  | [] => [x]
  | y :: ys => if x < y then x :: y :: ys else if x == y then y :: ys else y :: insertSorted x ys

/-- The Punycode text of a label, without the `xn--` prefix. -/
def encode (input : List Char) : List Char :=
  let basic := input.filter (fun c => c.toNat < 128)
  let points := (input.filter (fun c => 128 ≤ c.toNat)).foldr (fun c acc => insertSorted c.toNat acc) []
  let st := encodeLoop input basic.length points 128
    { out := [], delta := 0, bias := 72, handled := basic.length }
  basic ++ (if basic.isEmpty then [] else ['-']) ++ st.out

/-- Reads one variable-length numeral, adding its weighted digits to `i`. -/
def decodeNumber (bias : Nat) : List Char → Nat → Nat → Nat → Option (Nat × List Char)
  | [], _, _, _ => none
  | c :: rest, k, w, i =>
    match digitValue? c with
    | none => none
    | some d =>
      let i := i + d * w
      let t := threshold k bias
      if d < t then some (i, rest) else decodeNumber bias rest (k + 36) (w * (36 - t)) i

/-- Inserts the decoded code points into `output`; each round reads one numeral, and
`fuel` bounds the rounds by the length of the input. -/
def decodeLoop : Nat → List Char → List Nat → Nat → Nat → Nat → Option (List Nat)
  | _, [], output, _, _, _ => some output
  | 0, _ :: _, _, _, _, _ => none
  | fuel + 1, input, output, n, i, bias =>
    match decodeNumber bias input 36 1 i with
    | none => none
    | some (i', rest) =>
      let size := output.length + 1
      let bias := adapt (i' - i) size (i == 0)
      let n := n + i' / size
      let pos := i' % size
      if n < 128 || n > 0x10FFFF || (0xD800 ≤ n && n ≤ 0xDFFF) then none
      else decodeLoop fuel rest (output.take pos ++ n :: output.drop pos) n (pos + 1) bias

/-- The code points of a Punycode label body, or `none` when it is not valid Punycode. -/
def decode? (input : List Char) : Option (List Char) :=
  let (basic, extended) :=
    if input.contains '-' then
      let before := (input.reverse.dropWhile (· != '-')).drop 1 |>.reverse
      (before, input.drop (before.length + 1))
    else ([], input)
  if basic.any (fun c => 128 ≤ c.toNat) then none
  else
    (decodeLoop (extended.length + 1) extended (basic.map Char.toNat) 128 0 72).map
      (·.map Char.ofNat)

end ChartCatalog.Punycode
