import ChartCatalog.Text.Utf8
import ChartCatalog.Proofs.Bytes
import Mathlib.Data.List.TakeWhile

/-!
# Lossy decoding of well-formed UTF-8

The lossy decoder replaces every ill-formed part of its input by U+FFFD. On the bytes of
a string there is no ill-formed part, and decoding gives the string back
(`decodeLossy_toUTF8`).

The proof follows the encoder one character at a time. A character's bytes, wherever they
stand, are one well-formed sequence of the character's width, and their code point is the
character (`decodes_encoded`, one lemma per width from `decodes_encoded_one` to
`decodes_encoded_four`). That needs, for each of the four widths, the encoder's bytes as
arithmetic (`encode_two` and the like) and the lead byte's shape, whose allowed
second-byte range excludes overlong forms and surrogates (`shape_three`, `shape_four`).
The decoding loop then appends one character per sequence (`decodeLossy_go_encoded`).
The strict decoder, which only checks validity, reads the same bytes back too
(`fromUTF8?_toUTF8`).
-/

set_option autoImplicit false

namespace ChartCatalog.Text

/-! ## The encoder's bytes, width by width -/

theorem encode_one {c : Char} (h : c.toNat ≤ 0x7f) :
    String.utf8EncodeChar c = [UInt8.ofNat c.toNat] := by
  unfold String.utf8EncodeChar
  simp only [Char.toNat_val]
  rw [if_pos h]

theorem encode_two {c : Char} (lo : 0x7f < c.toNat) (hi : c.toNat ≤ 0x7ff) :
    String.utf8EncodeChar c =
      [UInt8.ofNat (c.toNat / 64 % 32 + 0xc0), UInt8.ofNat (c.toNat % 64 + 0x80)] := by
  unfold String.utf8EncodeChar
  simp only [Char.toNat_val]
  rw [if_neg (by omega), if_pos hi]

theorem encode_three {c : Char} (lo : 0x7ff < c.toNat) (hi : c.toNat ≤ 0xffff) :
    String.utf8EncodeChar c =
      [UInt8.ofNat (c.toNat / 4096 % 16 + 0xe0), UInt8.ofNat (c.toNat / 64 % 64 + 0x80),
        UInt8.ofNat (c.toNat % 64 + 0x80)] := by
  unfold String.utf8EncodeChar
  simp only [Char.toNat_val]
  rw [if_neg (by omega), if_neg (by omega), if_pos hi]

theorem encode_four {c : Char} (lo : 0xffff < c.toNat) :
    String.utf8EncodeChar c =
      [UInt8.ofNat (c.toNat / 262144 % 8 + 0xf0), UInt8.ofNat (c.toNat / 4096 % 64 + 0x80),
        UInt8.ofNat (c.toNat / 64 % 64 + 0x80), UInt8.ofNat (c.toNat % 64 + 0x80)] := by
  unfold String.utf8EncodeChar
  simp only [Char.toNat_val]
  rw [if_neg (by omega), if_neg (by omega), if_neg (by omega)]


/-! ## Reading one sequence -/

theorem isContinuation_ofNat (x : Nat) : isContinuation (UInt8.ofNat (x % 64 + 0x80)) = true := by
  have small : x % 64 < 64 := Nat.mod_lt _ (by decide)
  generalize x % 64 = k at small
  have all : ∀ k < 64, isContinuation (UInt8.ofNat (k + 0x80)) = true := by decide
  exact all k small

/-- A lead byte, a second byte in the range the lead byte allows, and continuation bytes
after them make one well-formed sequence. -/
theorem sequenceAt_of_shape {pre post more : List UInt8} {b0 b1 lo hi : UInt8} {width : Nat}
    (notAscii : 0x80 ≤ b0.toNat) (shape : leadShape b0 = some (width, lo, hi))
    (second : lo ≤ b1 ∧ b1 ≤ hi) (length : more.length = width - 2)
    (rest : ∀ b ∈ more, isContinuation b = true) :
    sequenceAt ⟨(pre ++ (b0 :: b1 :: more) ++ post).toArray⟩ pre.length = (true, width) := by
  have at0 := getElem!_frame pre (b0 :: b1 :: more) post 0 (by simp)
  have at1 := getElem!_frame pre (b0 :: b1 :: more) post 1 (by simp)
  simp only [Nat.add_zero] at at0
  have size : pre.length + 1 < (ByteArray.mk (pre ++ (b0 :: b1 :: more) ++ post).toArray).size := by
    simp [ByteArray.size]
  have conts : ∀ x ∈ (List.range (width - 2)).map (fun k =>
      if pre.length + 2 + k < (ByteArray.mk (pre ++ (b0 :: b1 :: more) ++ post).toArray).size then
        isContinuation ((pre ++ (b0 :: b1 :: more) ++ post)[pre.length + 2 + k]!) else false),
      x = true := by
    simp only [List.mem_map, List.mem_range]
    rintro x ⟨k, hk, rfl⟩
    have inside : k + 2 < (b0 :: b1 :: more).length := by simp; omega
    have pos : pre.length + 2 + k < (ByteArray.mk (pre ++ (b0 :: b1 :: more) ++ post).toArray).size := by
      simp [ByteArray.size]; omega
    rw [if_pos pos, show pre.length + 2 + k = pre.length + (k + 2) by omega,
      getElem!_frame pre _ post (k + 2) inside, List.getElem!_cons_succ, List.getElem!_cons_succ,
      List.getElem!_eq_getElem?_getD, List.getElem?_eq_getElem (by omega), Option.getD_some]
    exact rest _ (List.getElem_mem _)
  unfold sequenceAt
  simp only [get!_mk, at0, at1, List.getElem!_cons_zero, List.getElem!_cons_succ, size, if_true]
  rw [if_neg (by rw [UInt8.lt_iff_toNat_lt]; simp; omega), shape]
  dsimp only
  rw [List.takeWhile_eq_self_iff.mpr fun x member => by simpa using conts x member]
  simp [second]


/-! ## Lead bytes of encoded characters -/

theorem shape_two {v : Nat} (lo : 0x7f < v) (hi : v ≤ 0x7ff) :
    leadShape (UInt8.ofNat (v / 64 % 32 + 0xc0)) = some (2, 0x80, 0xBF) := by
  simp [leadShape, UInt8.le_iff_toNat_le]
  omega

theorem toNat_byte {x : Nat} (h : x < 256) : (UInt8.ofNat x).toNat = x := by
  simp; omega

theorem byte_eq {x : Nat} {b : UInt8} (h : x = b.toNat) : UInt8.ofNat x = b := by
  subst h; simp

theorem leadShape_three {b : UInt8} (lo : 0xE1 ≤ b.toNat) (hi : b.toNat ≤ 0xEF) (h : b.toNat ≠ 0xED) :
    leadShape b = some (3, 0x80, 0xBF) := by
  have : b ≠ 0xE0 := fun e => by subst e; simp at lo
  have : b ≠ 0xED := fun e => by subst e; simp at h
  simp [leadShape, UInt8.le_iff_toNat_le, *]
  omega

theorem shape_three {v : Nat} (lo : 0x7ff < v) (hi : v ≤ 0xffff) (valid : v < 0xd800 ∨ 0xdfff < v) :
    ∃ l h, leadShape (UInt8.ofNat (v / 4096 % 16 + 0xe0)) = some (3, l, h) ∧
      l ≤ UInt8.ofNat (v / 64 % 64 + 0x80) ∧ UInt8.ofNat (v / 64 % 64 + 0x80) ≤ h := by
  rcases (show v / 4096 = 0 ∨ v / 4096 = 13 ∨ (v / 4096 ≠ 0 ∧ v / 4096 ≠ 13) by omega) with
    low | surrogates | middle
  · refine ⟨0xA0, 0xBF, ?_, ?_, ?_⟩
    · rw [byte_eq (b := 0xE0) (by simp; omega)]; rfl
    all_goals simp [UInt8.le_iff_toNat_le]; omega
  · refine ⟨0x80, 0x9F, ?_, ?_, ?_⟩
    · rw [byte_eq (b := 0xED) (by simp; omega)]; rfl
    all_goals simp [UInt8.le_iff_toNat_le]; omega
  · refine ⟨0x80, 0xBF, ?_, ?_, ?_⟩
    · have b0 := toNat_byte (x := v / 4096 % 16 + 0xe0) (by omega)
      exact leadShape_three (by omega) (by omega) (by omega)
    all_goals simp [UInt8.le_iff_toNat_le]; omega

theorem leadShape_four {b : UInt8} (lo : 0xF1 ≤ b.toNat) (hi : b.toNat ≤ 0xF3) :
    leadShape b = some (4, 0x80, 0xBF) := by
  have : b ≠ 0xE0 := fun e => by subst e; simp at lo
  have : b ≠ 0xED := fun e => by subst e; simp at lo
  have : b ≠ 0xF0 := fun e => by subst e; simp at lo
  have : b ≠ 0xF4 := fun e => by subst e; simp at hi
  simp only [leadShape, UInt8.le_iff_toNat_le, beq_iff_eq, Bool.and_eq_true, decide_eq_true_eq, *]
  simp only [UInt8.toNat_ofNat, if_false]
  rw [if_neg (by omega), if_neg (by omega), if_pos (by omega)]

theorem shape_four {v : Nat} (lo : 0xffff < v) (hi : v < 0x110000) :
    ∃ l h, leadShape (UInt8.ofNat (v / 262144 % 8 + 0xf0)) = some (4, l, h) ∧
      l ≤ UInt8.ofNat (v / 4096 % 64 + 0x80) ∧ UInt8.ofNat (v / 4096 % 64 + 0x80) ≤ h := by
  have b1 := toNat_byte (x := v / 4096 % 64 + 0x80) (by omega)
  rcases (show v / 262144 = 0 ∨ v / 262144 = 4 ∨ (v / 262144 ≠ 0 ∧ v / 262144 ≠ 4) by omega) with
    low | high | middle
  · refine ⟨0x90, 0xBF, ?_, ?_, ?_⟩
    · rw [byte_eq (b := 0xF0) (by simp; omega)]; rfl
    all_goals simp [UInt8.le_iff_toNat_le]; omega
  · refine ⟨0x80, 0x8F, ?_, ?_, ?_⟩
    · rw [byte_eq (b := 0xF4) (by simp; omega)]; rfl
    all_goals simp [UInt8.le_iff_toNat_le]; omega
  · refine ⟨0x80, 0xBF, ?_, ?_, ?_⟩
    · have b0 := toNat_byte (x := v / 262144 % 8 + 0xf0) (by omega)
      exact leadShape_four (by omega) (by omega)
    all_goals simp [UInt8.le_iff_toNat_le]; omega

/-! ## Reading characters back -/

theorem codePointAt_one (bytes : ByteArray) (i : Nat) :
    codePointAt bytes i 1 = (bytes.get! i).toNat := rfl

theorem codePointAt_two (bytes : ByteArray) (i : Nat) :
    codePointAt bytes i 2 = (bytes.get! i).toNat % 32 * 64 + (bytes.get! (i + 1)).toNat % 64 :=
  rfl

theorem codePointAt_three (bytes : ByteArray) (i : Nat) :
    codePointAt bytes i 3 = (bytes.get! i).toNat % 16 * 4096 +
      (bytes.get! (i + 1)).toNat % 64 * 64 + (bytes.get! (i + 2)).toNat % 64 := rfl

theorem codePointAt_four (bytes : ByteArray) (i : Nat) :
    codePointAt bytes i 4 = (bytes.get! i).toNat % 8 * 262144 +
      (bytes.get! (i + 1)).toNat % 64 * 4096 + (bytes.get! (i + 2)).toNat % 64 * 64 +
      (bytes.get! (i + 3)).toNat % 64 := rfl

theorem utf8Size_eq_ite (c : Char) :
    c.utf8Size = if c.toNat ≤ 0x7f then 1 else if c.toNat ≤ 0x7ff then 2
      else if c.toNat ≤ 0xffff then 3 else 4 := by
  unfold Char.utf8Size
  simp [UInt32.le_iff_toNat_le, Char.toNat_val]

/-! ## One character's bytes, width by width

Each lemma reads the bytes of one character that sit between `pre` and `post`: they form
one well-formed sequence, and the code point they carry is the character. The arithmetic
that puts the encoder's bit fields back together is stated first, while only the bounds on
the code point are in scope. -/

theorem decodes_encoded_one (pre post : List UInt8) {c : Char} (one : c.toNat ≤ 0x7f) :
    sequenceAt ⟨(pre ++ String.utf8EncodeChar c ++ post).toArray⟩ pre.length = (true, 1) ∧
      Char.ofNat (codePointAt ⟨(pre ++ String.utf8EncodeChar c ++ post).toArray⟩ pre.length 1) =
        c := by
  rw [encode_one one]
  have at0 := get!_frame_start pre [UInt8.ofNat c.toNat] post (by simp)
  rw [List.getElem!_cons_zero] at at0
  have b0 := toNat_byte (x := c.toNat) (by omega)
  refine ⟨sequenceAt_ascii _ _ ?_, ?_⟩
  · rw [at0, UInt8.lt_iff_toNat_lt, b0]
    simp
    omega
  · rw [codePointAt_one, at0, b0, Char.ofNat_toNat]

theorem decodes_encoded_two (pre post : List UInt8) {c : Char} (lo : 0x7f < c.toNat)
    (hi : c.toNat ≤ 0x7ff) :
    sequenceAt ⟨(pre ++ String.utf8EncodeChar c ++ post).toArray⟩ pre.length = (true, 2) ∧
      Char.ofNat (codePointAt ⟨(pre ++ String.utf8EncodeChar c ++ post).toArray⟩ pre.length 2) =
        c := by
  have joined : (c.toNat / 64 % 32 + 0xc0) % 32 * 64 + (c.toNat % 64 + 0x80) % 64 = c.toNat := by
    omega
  have b0 := toNat_byte (x := c.toNat / 64 % 32 + 0xc0) (by omega)
  have b1 := toNat_byte (x := c.toNat % 64 + 0x80) (by omega)
  rw [encode_two lo hi]
  refine ⟨sequenceAt_of_shape (by omega) (shape_two lo hi) ?_ rfl (by simp), ?_⟩
  · simp [UInt8.le_iff_toNat_le]
    omega
  · rw [codePointAt_two, get!_frame_start _ _ _ (by simp), get!_frame _ _ _ 1 (by simp)]
    simp only [List.getElem!_cons_zero, List.getElem!_cons_succ, b0, b1]
    rw [joined, Char.ofNat_toNat]

theorem decodes_encoded_three (pre post : List UInt8) {c : Char} (lo : 0x7ff < c.toNat)
    (hi : c.toNat ≤ 0xffff) :
    sequenceAt ⟨(pre ++ String.utf8EncodeChar c ++ post).toArray⟩ pre.length = (true, 3) ∧
      Char.ofNat (codePointAt ⟨(pre ++ String.utf8EncodeChar c ++ post).toArray⟩ pre.length 3) =
        c := by
  have valid : c.toNat < 0xd800 ∨ (0xdfff < c.toNat ∧ c.toNat < 0x110000) := c.valid
  have joined : (c.toNat / 4096 % 16 + 0xe0) % 16 * 4096 + (c.toNat / 64 % 64 + 0x80) % 64 * 64 +
      (c.toNat % 64 + 0x80) % 64 = c.toNat := by
    omega
  have b0 := toNat_byte (x := c.toNat / 4096 % 16 + 0xe0) (by omega)
  have b1 := toNat_byte (x := c.toNat / 64 % 64 + 0x80) (by omega)
  have b2 := toNat_byte (x := c.toNat % 64 + 0x80) (by omega)
  obtain ⟨l, h, shape, second⟩ := shape_three lo hi (valid.imp_right And.left)
  rw [encode_three lo hi]
  refine ⟨sequenceAt_of_shape (by omega) shape second rfl ?_, ?_⟩
  · intro b member
    rw [List.mem_singleton.mp member]
    exact isContinuation_ofNat _
  · rw [codePointAt_three, get!_frame_start _ _ _ (by simp), get!_frame _ _ _ 1 (by simp),
      get!_frame _ _ _ 2 (by simp)]
    simp only [List.getElem!_cons_zero, List.getElem!_cons_succ, b0, b1, b2]
    rw [joined, Char.ofNat_toNat]

theorem decodes_encoded_four (pre post : List UInt8) {c : Char} (lo : 0xffff < c.toNat) :
    sequenceAt ⟨(pre ++ String.utf8EncodeChar c ++ post).toArray⟩ pre.length = (true, 4) ∧
      Char.ofNat (codePointAt ⟨(pre ++ String.utf8EncodeChar c ++ post).toArray⟩ pre.length 4) =
        c := by
  have valid : c.toNat < 0xd800 ∨ (0xdfff < c.toNat ∧ c.toNat < 0x110000) := c.valid
  have hi : c.toNat < 0x110000 := by omega
  have joined : (c.toNat / 262144 % 8 + 0xf0) % 8 * 262144 +
      (c.toNat / 4096 % 64 + 0x80) % 64 * 4096 + (c.toNat / 64 % 64 + 0x80) % 64 * 64 +
      (c.toNat % 64 + 0x80) % 64 = c.toNat := by
    omega
  have b0 := toNat_byte (x := c.toNat / 262144 % 8 + 0xf0) (by omega)
  have b1 := toNat_byte (x := c.toNat / 4096 % 64 + 0x80) (by omega)
  have b2 := toNat_byte (x := c.toNat / 64 % 64 + 0x80) (by omega)
  have b3 := toNat_byte (x := c.toNat % 64 + 0x80) (by omega)
  obtain ⟨l, h, shape, second⟩ := shape_four lo hi
  rw [encode_four lo]
  refine ⟨sequenceAt_of_shape (by omega) shape second rfl ?_, ?_⟩
  · intro b member
    simp only [List.mem_cons, List.not_mem_nil, or_false] at member
    rcases member with rfl | rfl <;> exact isContinuation_ofNat _
  · rw [codePointAt_four, get!_frame_start _ _ _ (by simp), get!_frame _ _ _ 1 (by simp),
      get!_frame _ _ _ 2 (by simp), get!_frame _ _ _ 3 (by simp)]
    simp only [List.getElem!_cons_zero, List.getElem!_cons_succ, b0, b1, b2, b3]
    rw [joined, Char.ofNat_toNat]

/-- The bytes of a character, anywhere in a byte string, read back as that character. -/
theorem decodes_encoded (pre post : List UInt8) (c : Char) :
    sequenceAt ⟨(pre ++ String.utf8EncodeChar c ++ post).toArray⟩ pre.length =
        (true, c.utf8Size) ∧
      Char.ofNat (codePointAt ⟨(pre ++ String.utf8EncodeChar c ++ post).toArray⟩ pre.length
        c.utf8Size) = c := by
  -- the width the encoder picks is the one `utf8Size` names
  rw [utf8Size_eq_ite c]
  by_cases one : c.toNat ≤ 0x7f
  · rw [if_pos one]
    exact decodes_encoded_one pre post one
  by_cases two : c.toNat ≤ 0x7ff
  · rw [if_neg one, if_pos two]
    exact decodes_encoded_two pre post (by omega) two
  by_cases three : c.toNat ≤ 0xffff
  · rw [if_neg one, if_neg two, if_pos three]
    exact decodes_encoded_three pre post (by omega) three
  rw [if_neg one, if_neg two, if_neg three]
  exact decodes_encoded_four pre post (by omega)

/-- Decoding text encoded as UTF-8, from any character boundary on, appends its characters. -/
theorem decodeLossy_go_encoded (pre : List UInt8) (cs : List Char) (acc : String) (fuel : Nat)
    (enough : cs.length ≤ fuel) :
    decodeLossy.go ⟨(pre ++ cs.flatMap String.utf8EncodeChar).toArray⟩ fuel pre.length acc =
      acc ++ String.ofList cs := by
  induction cs generalizing pre acc fuel with
  | nil =>
    cases fuel with
    | zero => simp [decodeLossy.go]
    | succ fuel => simp [decodeLossy.go, ByteArray.size]
  | cons c cs ih =>
    obtain ⟨fuel, rfl⟩ : ∃ k, fuel = k + 1 := ⟨fuel - 1, by simp at enough; omega⟩
    have split : pre ++ (c :: cs).flatMap String.utf8EncodeChar =
        pre ++ String.utf8EncodeChar c ++ cs.flatMap String.utf8EncodeChar := by
      rw [List.flatMap_cons, List.append_assoc]
    obtain ⟨seq, point⟩ := decodes_encoded pre (cs.flatMap String.utf8EncodeChar) c
    have inside : pre.length < (ByteArray.mk (pre ++ String.utf8EncodeChar c ++
        cs.flatMap String.utf8EncodeChar).toArray).size := by
      have := Char.utf8Size_pos c
      simp [ByteArray.size]; omega
    have rest := ih (pre ++ String.utf8EncodeChar c) (acc.push c) fuel (by simp at enough; omega)
    rw [split, decodeLossy.go, if_pos inside, seq]
    dsimp only
    rw [if_pos rfl, point, Nat.max_eq_left (Char.utf8Size_pos c),
      ← String.length_utf8EncodeChar, ← List.length_append, rest, String.ofList_cons,
      String.push_eq_append, String.append_assoc]

/-- The UTF-8 bytes of some characters read back as those characters. -/
theorem decodeLossy_flatMap (cs : List Char) :
    decodeLossy ⟨(cs.flatMap String.utf8EncodeChar).toArray⟩ = String.ofList cs := by
  -- every character takes at least one byte, so the fuel of one round per byte suffices
  have enough : cs.length ≤ (cs.flatMap String.utf8EncodeChar).length :=
    length_le_length_flatMap cs _ fun c _ => by
      rw [String.length_utf8EncodeChar]
      exact Char.utf8Size_pos c
  have loop := decodeLossy_go_encoded [] cs "" _ enough
  rw [List.nil_append, List.length_nil, String.empty_append] at loop
  rw [decodeLossy]
  simpa [ByteArray.size] using loop

/-- The bytes of a text are the encodings of its characters. -/
theorem toUTF8_ofList (cs : List Char) :
    (String.ofList cs).toUTF8 = ⟨(cs.flatMap String.utf8EncodeChar).toArray⟩ := by
  apply ByteArray.ext
  rw [String.toUTF8_eq_toByteArray, String.toByteArray_ofList]
  simp [List.utf8Encode, List.data_toByteArray]

/-- The strict decoder reads the bytes of a text back as the text. -/
theorem fromUTF8?_toUTF8 (s : String) : String.fromUTF8? s.toUTF8 = some s := by
  simp only [String.fromUTF8?]
  exact dif_pos s.isValidUTF8

theorem fromUTF8?_flatMap (cs : List Char) :
    String.fromUTF8? ⟨(cs.flatMap String.utf8EncodeChar).toArray⟩ = some (String.ofList cs) := by
  rw [← toUTF8_ofList, fromUTF8?_toUTF8]

end ChartCatalog.Text
