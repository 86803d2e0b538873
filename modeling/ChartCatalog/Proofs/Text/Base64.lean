import ChartCatalog.Text.Base64
import Mathlib.Tactic.IntervalCases

/-!
# Base64 reads back what it writes

Reading the base64 text of any byte string gives the byte string again
(`decode?_encode`). Each six-bit value is written as a character of the alphabet that
reads back as the value, and never as the pad `=` (`decodeDigit?_encodeDigit`); each
group of three bytes is written as four characters that read back as the group, and the
last, shorter group as four characters with pads that read back when they end the text.
-/

set_option autoImplicit false

namespace ChartCatalog.Base64

/-! ## Digits -/

theorem toNat_ofNat_of_lt {n : Nat} (lt : n < 0xd800) : (Char.ofNat n).toNat = n := by
  rw [Char.ofNat, dif_pos (Or.inl lt)]
  rfl

/-- Every six-bit value is written as a character that reads back as it. -/
theorem decodeDigit?_encodeDigit {n : Nat} (lt : n < 64) : decodeDigit? (encodeDigit n) = some n := by
  unfold encodeDigit decodeDigit?
  -- the four ranges of the alphabet, then the two signs
  by_cases upper : n < 26
  · have code : (Char.ofNat (65 + n)).toNat = 65 + n := toNat_ofNat_of_lt (by omega)
    simp only [upper, if_true, code, Bool.and_eq_true, decide_eq_true_eq]
    rw [if_pos (by omega)]
    congr 1
    omega
  by_cases lower : n < 52
  · have code : (Char.ofNat (71 + n)).toNat = 71 + n := toNat_ofNat_of_lt (by omega)
    simp only [upper, lower, if_true, if_false, code, Bool.and_eq_true, decide_eq_true_eq]
    rw [if_neg (by omega), if_pos (by omega)]
    congr 1
    omega
  by_cases digit : n < 62
  · have code : (Char.ofNat (n - 4)).toNat = n - 4 := toNat_ofNat_of_lt (by omega)
    simp only [upper, lower, digit, if_true, if_false, code, Bool.and_eq_true, decide_eq_true_eq]
    rw [if_neg (by omega), if_neg (by omega), if_pos (by omega)]
    congr 1
    omega
  by_cases plus : n = 62
  · subst plus
    decide
  · have slash : n = 63 := by omega
    subst slash
    decide

/-- No six-bit value is written as the pad. -/
theorem encodeDigit_ne_pad (n : Nat) : encodeDigit n ≠ '=' := by
  intro pad
  have code := congrArg Char.toNat pad
  unfold encodeDigit at code
  split at code
  · rw [toNat_ofNat_of_lt (by omega)] at code
    simp at code
    omega
  split at code
  · rw [toNat_ofNat_of_lt (by omega)] at code
    simp at code
    omega
  split at code
  · rw [toNat_ofNat_of_lt (by omega)] at code
    simp at code
    omega
  split at code <;> simp at code

/-! ## Groups -/

theorem decodeGroup?_encodeGroup_three (last : Bool) (a b c : UInt8) :
    decodeGroup? last (encodeGroup [a, b, c]) = some [a, b, c] := by
  have ha := a.toNat_lt
  have hb := b.toNat_lt
  have hc := c.toNat_lt
  simp only [encodeGroup]
  obtain ⟨n, bytes⟩ : ∃ n, n = a.toNat * 65536 + b.toNat * 256 + c.toNat := ⟨_, rfl⟩
  rw [← bytes]
  simp [decodeGroup?, encodeDigit_ne_pad, decodeDigit?_encodeDigit (by omega : n / 262144 < 64),
    decodeDigit?_encodeDigit (Nat.mod_lt _ (by omega) : n / 4096 % 64 < 64),
    decodeDigit?_encodeDigit (Nat.mod_lt _ (by omega) : n / 64 % 64 < 64),
    decodeDigit?_encodeDigit (Nat.mod_lt _ (by omega) : n % 64 < 64)]
  -- the four digits put the 24 bits back together
  have whole : n / 262144 * 262144 + n / 4096 % 64 * 4096 + n / 64 % 64 * 64 + n % 64 = n := by
    omega
  rw [whole]
  -- each byte is its eight bits of the 24
  refine ⟨?_, ?_, ?_⟩ <;> apply UInt8.toNat_inj.mp <;> simp only [UInt8.toNat_ofNat'] <;> omega

theorem decodeGroup?_encodeGroup_two (a b : UInt8) :
    decodeGroup? true (encodeGroup [a, b]) = some [a, b] := by
  have ha := a.toNat_lt
  have hb := b.toNat_lt
  simp only [encodeGroup]
  obtain ⟨n, bytes⟩ : ∃ n, n = a.toNat * 65536 + b.toNat * 256 := ⟨_, rfl⟩
  rw [← bytes]
  simp [decodeGroup?, encodeDigit_ne_pad, guard, decodeDigit?_encodeDigit (by omega : n / 262144 < 64),
    decodeDigit?_encodeDigit (Nat.mod_lt _ (by omega) : n / 4096 % 64 < 64),
    decodeDigit?_encodeDigit (Nat.mod_lt _ (by omega) : n / 64 % 64 < 64)]
  -- the last digit's two low bits are the pad's zeros
  rw [if_pos (by omega), Option.bind_some, Option.some.injEq, List.cons.injEq, List.cons.injEq]
  refine ⟨?_, ?_, rfl⟩ <;> apply UInt8.toNat_inj.mp <;> simp only [UInt8.toNat_ofNat'] <;> omega

theorem decodeGroup?_encodeGroup_one (a : UInt8) :
    decodeGroup? true (encodeGroup [a]) = some [a] := by
  have ha := a.toNat_lt
  simp only [encodeGroup]
  obtain ⟨n, bytes⟩ : ∃ n, n = a.toNat * 65536 := ⟨_, rfl⟩
  rw [← bytes]
  simp [decodeGroup?, guard, decodeDigit?_encodeDigit (by omega : n / 262144 < 64),
    decodeDigit?_encodeDigit (Nat.mod_lt _ (by omega) : n / 4096 % 64 < 64)]
  -- the second digit's four low bits are the pads' zeros
  rw [if_pos (by omega), Option.bind_some, Option.some.injEq, List.cons.injEq]
  refine ⟨?_, rfl⟩
  apply UInt8.toNat_inj.mp
  simp only [UInt8.toNat_add, UInt8.toNat_mul, UInt8.toNat_ofNat', show (4 : UInt8).toNat = 4 from rfl]
  omega

/-! ## Whole texts -/

/-- The characters written after others are the characters of the bytes alone. -/
theorem encodeInto_toList : ∀ (bytes : List UInt8) (written : Array Char),
    (encodeInto written bytes).toList = written.toList ++ (encodeInto #[] bytes).toList
  | a :: b :: c :: rest, written => by
    rw [encodeInto, encodeInto, encodeInto_toList rest, encodeInto_toList rest (#[] ++ _)]
    simp
  | [], written => by simp [encodeInto]
  | [_], written => by simp [encodeInto]
  | [_, _], written => by simp [encodeInto]

/-- Reading four characters reads their group, then the rest. -/
theorem decodeInto?_group (read : Array UInt8) (w x y z : Char) (rest : List Char) :
    decodeInto? read ([w, x, y, z] ++ rest) =
      match decodeGroup? rest.isEmpty [w, x, y, z] with
      | some group => decodeInto? (read ++ group.toArray) rest
      | none => none := rfl

/-- Reading the characters of bytes gives the bytes, after those already read. -/
theorem decodeInto?_encodeInto (read : Array UInt8) : ∀ bytes : List UInt8,
    decodeInto? read (encodeInto #[] bytes).toList = some (read ++ bytes.toArray)
  | a :: b :: c :: rest => by
    obtain ⟨w, x, y, z, four⟩ : ∃ w x y z, encodeGroup [a, b, c] = [w, x, y, z] := ⟨_, _, _, _, rfl⟩
    have group := decodeGroup?_encodeGroup_three (encodeInto #[] rest).toList.isEmpty a b c
    rw [four] at group
    rw [encodeInto, encodeInto_toList]
    simp only [Array.toList_append, four, List.nil_append]
    rw [decodeInto?_group, group]
    simp only [decodeInto?_encodeInto (read ++ [a, b, c].toArray) rest]
    simp
  | [] => by simp [encodeInto, encodeGroup, decodeInto?]
  | [a] => by
    obtain ⟨w, x, y, z, four⟩ : ∃ w x y z, encodeGroup [a] = [w, x, y, z] := ⟨_, _, _, _, rfl⟩
    have group := decodeGroup?_encodeGroup_one a
    rw [four] at group
    rw [encodeInto]
    · simp only [Array.toList_append, four, List.nil_append]
      rw [← List.append_nil [w, x, y, z], decodeInto?_group]
      simp [group, decodeInto?]
    · simp
  | [a, b] => by
    obtain ⟨w, x, y, z, four⟩ : ∃ w x y z, encodeGroup [a, b] = [w, x, y, z] := ⟨_, _, _, _, rfl⟩
    have group := decodeGroup?_encodeGroup_two a b
    rw [four] at group
    rw [encodeInto]
    · simp only [Array.toList_append, four, List.nil_append]
      rw [← List.append_nil [w, x, y, z], decodeInto?_group]
      simp [group, decodeInto?]
    · simp

/-- The bytes of a byte string, in order. -/
theorem toList_eq_data_toList (bytes : ByteArray) : bytes.toList = bytes.data.toList := by
  have loop : ∀ (i : Nat) (r : List UInt8),
      ByteArray.toList.loop bytes i r = r.reverse ++ bytes.data.toList.drop i := by
    intro i r
    induction i, r using ByteArray.toList.loop.induct bytes with
    | case1 i r lt ih =>
      have inside : i < bytes.data.toList.length := by simpa using lt
      rw [ByteArray.toList.loop.eq_1, if_pos lt, ih, List.drop_eq_getElem_cons inside]
      obtain ⟨data⟩ := bytes
      simp [ByteArray.get!, getElem!_pos data i (by simpa using inside)]
    | case2 i r notLt =>
      have past : bytes.data.toList.length ≤ i := by simpa using notLt
      rw [ByteArray.toList.loop.eq_1, if_neg notLt, List.drop_eq_nil_of_le past, List.append_nil]
  rw [ByteArray.toList, loop]
  simp

/-- Reading the base64 text of a byte string gives the byte string. -/
theorem decode?_encode (bytes : ByteArray) : decode? (encode bytes) = some bytes := by
  rw [decode?, encode, String.toList_ofList, decodeInto?_encodeInto, toList_eq_data_toList]
  simp

end ChartCatalog.Base64
