import ChartCatalog.Proofs.Archive.Writer
import ChartCatalog.Proofs.Text.Utf8
import ChartCatalog.Proofs.Text.Base64

/-!
# Header fields read back

The reader takes a header apart field by field: the checksum and the size as octal text
up to a zero byte, the type flag as one byte, the format from the magic, and the path
from the name field up to its first zero byte. This module shows that each field the
writer writes reads back as what was written, and so that a written header block passes
every check of `readHeader` and gives its member's size and the start of the next header
(`readHeader_headerBlock`).

Numbers are read by `parseRadix`, a fold that adds one digit per character and gives up
at `2^64`; on digits whose value stays below that it computes `Nat.ofDigitChars`
(`parseRadix_digits`), and octal digits written for a number give the number back
(`ofDigitChars_octalDigits`).

Texts in the header are ASCII, where UTF-8 is one byte per character. A byte below 0x80
inside UTF-8 text can only be an ASCII character of the text (`ascii_of_mem_textBytes`),
which is what keeps zero bytes and newlines out of the bytes of written paths.
-/

set_option autoImplicit false

namespace ChartCatalog.Tar

/-! ## UTF-8 bytes of ASCII text -/

theorem textBytes_cons (c : Char) (cs : List Char) :
    textBytes (c :: cs) = String.utf8EncodeChar c ++ textBytes cs := List.flatMap_cons

theorem textBytes_append (a b : List Char) : textBytes (a ++ b) = textBytes a ++ textBytes b :=
  List.flatMap_append

/-- The bytes of ASCII characters are their codes. -/
theorem textBytes_ascii {cs : List Char} (ascii : ∀ c ∈ cs, c.toNat ≤ 0x7f) :
    textBytes cs = cs.map fun c => UInt8.ofNat c.toNat := by
  induction cs with
  | nil => rfl
  | cons c cs ih =>
    have rest : ∀ d ∈ cs, d.toNat ≤ 0x7f := fun d member => ascii d (List.mem_cons_of_mem c member)
    rw [textBytes_cons, Text.encode_one (ascii c List.mem_cons_self), ih rest, List.map_cons,
      List.singleton_append]

theorem length_textBytes_ascii {cs : List Char} (ascii : ∀ c ∈ cs, c.toNat ≤ 0x7f) :
    (textBytes cs).length = cs.length := by
  rw [textBytes_ascii ascii, List.length_map]

/-- A byte below 0x80 in UTF-8 text is an ASCII character of the text: the bytes of a
wider character all have their high bit set. -/
theorem ascii_of_mem_textBytes {cs : List Char} {b : UInt8} (member : b ∈ textBytes cs)
    (low : b.toNat < 0x80) : ∃ c ∈ cs, c.toNat = b.toNat := by
  obtain ⟨c, present, inCode⟩ := List.mem_flatMap.mp member
  refine ⟨c, present, ?_⟩
  have valid : c.toNat < 0xd800 ∨ (0xdfff < c.toNat ∧ c.toNat < 0x110000) := c.valid
  by_cases one : c.toNat ≤ 0x7f
  · rw [Text.encode_one one, List.mem_singleton] at inCode
    rw [inCode, Text.toNat_byte (by omega)]
  exfalso
  by_cases two : c.toNat ≤ 0x7ff
  · rw [Text.encode_two (by omega) two] at inCode
    simp only [List.mem_cons, List.not_mem_nil, or_false] at inCode
    rcases inCode with rfl | rfl <;> rw [Text.toNat_byte (by omega)] at low <;> omega
  by_cases three : c.toNat ≤ 0xffff
  · rw [Text.encode_three (by omega) three] at inCode
    simp only [List.mem_cons, List.not_mem_nil, or_false] at inCode
    rcases inCode with rfl | rfl | rfl <;> rw [Text.toNat_byte (by omega)] at low <;> omega
  · rw [Text.encode_four (by omega)] at inCode
    simp only [List.mem_cons, List.not_mem_nil, or_false] at inCode
    rcases inCode with rfl | rfl | rfl | rfl <;> rw [Text.toNat_byte (by omega)] at low <;> omega

/-- An ASCII byte that no character of a text has is not among the text's bytes. -/
theorem not_mem_textBytes {cs : List Char} {b : UInt8} (low : b.toNat < 0x80)
    (absent : ∀ c ∈ cs, c.toNat ≠ b.toNat) : b ∉ textBytes cs := fun member => by
  obtain ⟨c, present, code⟩ := ascii_of_mem_textBytes member low
  exact absent c present code

theorem length_textBytes_toList (s : String) : (textBytes s.toList).length = s.utf8ByteSize := by
  have bytes := Text.toUTF8_ofList s.toList
  rw [String.ofList_toList] at bytes
  have size : s.utf8ByteSize = s.toUTF8.data.toList.length := by simp
  rw [size, bytes]
  rfl

/-! ## Digits -/

theorem length_octalDigits (width n : Nat) : (octalDigits width n).length = width := by
  induction width generalizing n with
  | zero => rfl
  | succ width ih => rw [octalDigits, List.length_append, ih, List.length_singleton]

/-- Every octal digit is one of the characters `0` to `7`. -/
theorem octal_of_mem_octalDigits {width n : Nat} {c : Char} (member : c ∈ octalDigits width n) :
    ∃ k < 8, c.toNat = 48 + k := by
  induction width generalizing n with
  | zero => simp [octalDigits] at member
  | succ width ih =>
    rw [octalDigits, List.mem_append, List.mem_singleton] at member
    rcases member with inner | rfl
    · exact ih inner
    · exact ⟨n % 8, Nat.mod_lt _ (by decide), Base64.toNat_ofNat_of_lt (by omega)⟩

/-- Octal digits, read most significant first, give the number modulo their range. -/
theorem ofDigitChars_octalDigits (width n : Nat) :
    Nat.ofDigitChars 8 (octalDigits width n) 0 = n % Nat.pow 8 width := by
  induction width generalizing n with
  | zero => simp [octalDigits, Nat.ofDigitChars, Nat.mod_one]
  | succ width ih =>
    have last : (Char.ofNat (48 + n % 8)).toNat = 48 + n % 8 := Base64.toNat_ofNat_of_lt (by omega)
    have split : n % Nat.pow 8 (width + 1) = n % 8 + 8 * (n / 8 % Nat.pow 8 width) := by
      rw [show Nat.pow 8 (width + 1) = 8 * Nat.pow 8 width from Nat.mul_comm _ _, Nat.mod_mul]
    have front : (octalDigits width (n / 8)).foldl (fun sofar c => 8 * sofar + (c.toNat - '0'.toNat)) 0 =
        n / 8 % Nat.pow 8 width := ih (n / 8)
    have zero : '0'.toNat = 48 := rfl
    rw [octalDigits, Nat.ofDigitChars, List.foldl_append, front, split]
    simp only [List.foldl_cons, List.foldl_nil, last, zero]
    omega

theorem le_ofDigitChars {radix : Nat} (pos : 0 < radix) (cs : List Char) (init : Nat) :
    init ≤ Nat.ofDigitChars radix cs init := by
  induction cs generalizing init with
  | nil => exact Nat.le_refl init
  | cons c cs ih =>
    have grows : init ≤ radix * init + (c.toNat - '0'.toNat) :=
      Nat.le_trans (Nat.le_mul_of_pos_left init pos) (Nat.le_add_right _ _)
    exact Nat.le_trans grows (ih _)

/-- A fold that adds one digit per character, and may only fail at `2^64`, computes the
value of the digits when that stays below `2^64`. -/
theorem foldlM_digits {radix : Nat} (pos : 0 < radix) {f : Nat → Char → Option Nat}
    {cs : List Char}
    (step : ∀ acc, ∀ c ∈ cs, radix * acc + (c.toNat - '0'.toNat) < Nat.pow 2 64 →
      f acc c = some (radix * acc + (c.toNat - '0'.toNat)))
    (acc : Nat) (bound : Nat.ofDigitChars radix cs acc < Nat.pow 2 64) :
    cs.foldlM f acc = some (Nat.ofDigitChars radix cs acc) := by
  induction cs generalizing acc with
  | nil => rfl
  | cons c cs ih =>
    have fits : radix * acc + (c.toNat - '0'.toNat) < Nat.pow 2 64 :=
      Nat.lt_of_le_of_lt (le_ofDigitChars pos cs _) bound
    rw [List.foldlM_cons, step acc c List.mem_cons_self fits]
    exact ih (fun a d member => step a d (List.mem_cons_of_mem c member)) _ bound

/-- Digits below the radix, as many as fit below `2^64`, parse to their value. -/
theorem parseRadix_digits {radix : Nat} (pos : 0 < radix) (small : radix ≤ 10) {cs : List Char}
    (nonempty : cs ≠ []) (digits : ∀ c ∈ cs, ∃ k < radix, c.toNat = 48 + k)
    (bound : Nat.ofDigitChars radix cs 0 < Nat.pow 2 64) :
    parseRadix radix (String.ofList cs) = some (Nat.ofDigitChars radix cs 0) := by
  obtain ⟨c, rest, rfl⟩ := List.exists_cons_of_ne_nil nonempty
  -- a digit is no sign, so the text is read as it stands
  have notPlus : c ≠ '+' := by
    rintro rfl
    obtain ⟨k, -, code⟩ := digits '+' List.mem_cons_self
    have plus : '+'.toNat = 43 := rfl
    omega
  unfold parseRadix
  simp only [String.toList_ofList]
  split
  · next shape => cases shape; exact absurd rfl notPlus
  · next shape => cases shape; exact absurd rfl notPlus
  · simp only [List.isEmpty_cons, Bool.false_eq_true, if_false]
    refine foldlM_digits pos (fun acc d member fits => ?_) 0 bound
    obtain ⟨k, lt, code⟩ := digits d member
    have isDigit : ('0' ≤ d && d ≤ '9') = true := by
      simp [Char.le_def, UInt32.le_iff_toNat_le, Char.toNat_val]
      omega
    have value : d.toNat - 48 = d.toNat - '0'.toNat := rfl
    simp only [isDigit, if_true, ← value]
    rw [Nat.mul_comm acc radix, if_pos (by simp only [Bool.and_eq_true, decide_eq_true_eq]; omega)]

/-! ## Texts up to a zero byte -/

/-- Digits are no blanks, so trimming leaves a number's text as it is. -/
theorem trim_digits {cs : List Char} (digits : ∀ c ∈ cs, ∃ k < 10, c.toNat = 48 + k) :
    Text.trim (String.ofList cs) = String.ofList cs := by
  have solid : ∀ c ∈ cs, Text.isBlank c = false := by
    intro c member
    obtain ⟨k, lt, code⟩ := digits c member
    unfold Text.isBlank
    simp only [code]
    simp
    omega
  have front : cs.dropWhile Text.isBlank = cs :=
    List.dropWhile_eq_self_iff.mpr fun pos => by
      rw [solid _ (List.getElem_mem pos)]
      exact Bool.false_ne_true
  have back : cs.reverse.dropWhile Text.isBlank = cs.reverse :=
    List.dropWhile_eq_self_iff.mpr fun pos => by
      rw [solid _ (List.mem_reverse.mp (List.getElem_mem pos))]
      exact Bool.false_ne_true
  simp only [Text.trim, Text.trimChars, Text.dropBlanks, String.toList_ofList, front, back,
    List.reverse_reverse]

theorem extract_zero_frame (text post : List UInt8) :
    (ByteArray.mk (text ++ post).toArray).extract 0 text.length = ⟨text.toArray⟩ := by
  simpa using extract_frame [] text post

/-- A field with no zero byte before a zero byte reads as the bytes before it. -/
theorem untilZero_frame {text rest : List UInt8} (noZero : 0 ∉ text) :
    untilZero ⟨(text ++ 0 :: rest).toArray⟩ = ⟨text.toArray⟩ := by
  have before : text.findIdx? (· == 0) = none :=
    List.findIdx?_eq_none_iff.mpr fun x member => by
      simp only [beq_eq_false_iff_ne]
      rintro rfl
      exact noZero member
  have first : (text ++ 0 :: rest).findIdx? (· == 0) = some text.length := by
    rw [List.findIdx?_append, before, List.findIdx?_cons]
    simp
  unfold untilZero
  rw [Base64.toList_eq_data_toList]
  simp only [first]
  exact extract_zero_frame text (0 :: rest)

/-- A field without a zero byte reads whole. -/
theorem untilZero_of_not_mem {text : List UInt8} (noZero : 0 ∉ text) :
    untilZero ⟨text.toArray⟩ = ⟨text.toArray⟩ := by
  have none : text.findIdx? (· == 0) = none :=
    List.findIdx?_eq_none_iff.mpr fun x member => by
      simp only [beq_eq_false_iff_ne]
      rintro rfl
      exact noZero member
  unfold untilZero
  rw [Base64.toList_eq_data_toList]
  simp only [none]

/-- A text padded with zeros to a field's width reads back as the text. -/
theorem untilZero_textField {width : Nat} {text : List UInt8} (noZero : 0 ∉ text) :
    untilZero ⟨(textField width text).toArray⟩ = ⟨text.toArray⟩ := by
  unfold textField
  cases width - text.length with
  | zero => rw [List.replicate_zero, List.append_nil, untilZero_of_not_mem noZero]
  | succ k => rw [List.replicate_succ, untilZero_frame noZero]

/-- ASCII digits hold no zero byte. -/
theorem zero_not_mem_digits {cs : List Char} (digits : ∀ c ∈ cs, ∃ k < 10, c.toNat = 48 + k) :
    0 ∉ textBytes cs := by
  intro member
  obtain ⟨c, present, code⟩ := ascii_of_mem_textBytes member (by decide)
  obtain ⟨k, -, digit⟩ := digits c present
  simp at code
  omega

/-! ## Numeric fields -/

/-- Octal digits before a zero byte read back as their value. -/
theorem octalField_digits {digits : List Char} (rest : List UInt8) (nonempty : digits ≠ [])
    (octal : ∀ c ∈ digits, ∃ k < 8, c.toNat = 48 + k)
    (bound : Nat.ofDigitChars 8 digits 0 < Nat.pow 2 64) :
    octalField ⟨(textBytes digits ++ 0 :: rest).toArray⟩ = .ok (Nat.ofDigitChars 8 digits 0) := by
  have decimal : ∀ c ∈ digits, ∃ k < 10, c.toNat = 48 + k := fun c member => by
    obtain ⟨k, lt, code⟩ := octal c member
    exact ⟨k, by omega, code⟩
  unfold octalField
  rw [untilZero_frame (zero_not_mem_digits decimal), textBytes, Text.fromUTF8?_flatMap]
  simp only [trim_digits decimal, parseRadix_digits (by decide) (by decide) nonempty octal bound]
  rfl

/-- The eight octal digits of a number below `8^21` fit the parser's range. -/
theorem pow_eight_le {width : Nat} (narrow : width ≤ 21) : Nat.pow 8 width < Nat.pow 2 64 :=
  calc Nat.pow 8 width ≤ Nat.pow 8 21 := Nat.pow_le_pow_right (by decide) narrow
    _ < Nat.pow 2 64 := by decide

/-- A numeric field as written reads back as the number modulo its digits' range. -/
theorem octalField_numberField {width : Nat} (n : Nat) (rest : List UInt8) (wide : 2 ≤ width)
    (narrow : width ≤ 22) :
    octalField ⟨(numberField width n ++ rest).toArray⟩ = .ok (n % Nat.pow 8 (width - 1)) := by
  have nonempty : octalDigits (width - 1) n ≠ [] := by
    rw [← List.length_pos_iff, length_octalDigits]
    omega
  have bound : Nat.ofDigitChars 8 (octalDigits (width - 1) n) 0 < Nat.pow 2 64 := by
    rw [ofDigitChars_octalDigits]
    exact Nat.lt_trans (Nat.mod_lt _ (Nat.pow_pos (by decide))) (pow_eight_le (by omega))
  have split : numberField width n ++ rest = textBytes (octalDigits (width - 1) n) ++ 0 :: rest := by
    simp [numberField]
  rw [split, octalField_digits rest nonempty (fun c => octal_of_mem_octalDigits) bound,
    ofDigitChars_octalDigits]

/-! ## The layout of a written header -/

theorem ascii_of_octal {cs : List Char} (octal : ∀ c ∈ cs, ∃ k < 8, c.toNat = 48 + k) :
    ∀ c ∈ cs, c.toNat ≤ 0x7f := fun c member => by
  obtain ⟨k, lt, code⟩ := octal c member
  omega

theorem ascii_octalDigits (width n : Nat) : ∀ c ∈ octalDigits width n, c.toNat ≤ 0x7f :=
  ascii_of_octal fun _ member => octal_of_mem_octalDigits member

theorem length_textField {width : Nat} {bytes : List UInt8} (fits : bytes.length ≤ width) :
    (textField width bytes).length = width := by
  simp only [textField, List.length_append, List.length_replicate]
  omega

theorem length_numberField (width n : Nat) (pos : 0 < width) :
    (numberField width n).length = width := by
  have ascii := ascii_octalDigits (width - 1) n
  rw [numberField, List.length_append, length_textBytes_ascii ascii, length_octalDigits,
    List.length_singleton]
  omega

theorem length_magic (format : Format) : format.magic.length = 8 := by
  cases format <;> decide

theorem length_headerFront {name : List UInt8} (fits : name.length ≤ 100) (size : Nat) :
    (headerFront name size).length = 148 := by
  simp only [headerFront, List.length_append, length_textField fits,
    length_numberField _ _ (by decide : 0 < 8), length_numberField _ _ (by decide : 0 < 12)]

theorem length_headerBack (format : Format) (typeFlag : UInt8) :
    (headerBack format typeFlag).length = 356 := by
  simp only [headerBack, List.length_cons, List.length_append, List.length_replicate, length_magic]

theorem field_of_eq (block pre w post : List UInt8) (split : block = pre ++ w ++ post) :
    (Header.mk ⟨block.toArray⟩).field pre.length w.length = ⟨w.toArray⟩ := by
  subst split
  exact extract_frame pre w post

theorem get!_of_eq (block pre w post : List UInt8) (split : block = pre ++ w ++ post) (k : Nat)
    (inside : k < w.length) : (ByteArray.mk block.toArray).get! (pre.length + k) = w[k]! := by
  subst split
  exact get!_frame pre w post k inside

section Written

variable (format : Format) {name : List UInt8} (typeFlag : UInt8) (size : Nat) {sum : List UInt8}

theorem field_size_headerWith (fits : name.length ≤ 100) :
    (Header.mk ⟨(headerWith format name typeFlag size sum).toArray⟩).field 124 12 =
      ⟨(numberField 12 size).toArray⟩ := by
  have before : (textField 100 name ++ numberField 8 0o600 ++ numberField 8 0 ++
      numberField 8 0).length = 124 := by
    simp only [List.length_append, length_textField fits, length_numberField _ _ (by decide : 0 < 8)]
  have field := field_of_eq (headerWith format name typeFlag size sum)
    (textField 100 name ++ numberField 8 0o600 ++ numberField 8 0 ++ numberField 8 0)
    (numberField 12 size) (numberField 12 0 ++ sum ++ headerBack format typeFlag)
    (by simp only [headerWith, headerFront, List.append_assoc])
  rwa [before, length_numberField _ _ (by decide)] at field

theorem field_sum_headerWith (fits : name.length ≤ 100) (sum8 : sum.length = 8) :
    (Header.mk ⟨(headerWith format name typeFlag size sum).toArray⟩).field 148 8 = ⟨sum.toArray⟩ := by
  have field := field_of_eq (headerWith format name typeFlag size sum) (headerFront name size) sum
    (headerBack format typeFlag) rfl
  rwa [length_headerFront fits, sum8] at field

theorem typeFlag_headerWith (fits : name.length ≤ 100) (sum8 : sum.length = 8) :
    (Header.mk ⟨(headerWith format name typeFlag size sum).toArray⟩).typeFlag = typeFlag := by
  have flag := get!_of_eq (headerWith format name typeFlag size sum) (headerFront name size ++ sum)
    (headerBack format typeFlag) [] (by rw [List.append_nil]; rfl) 0
    (by rw [length_headerBack]; decide)
  have index : (headerFront name size ++ sum).length + 0 = 156 := by
    rw [List.length_append, length_headerFront fits, sum8]
  rw [index] at flag
  rw [Header.typeFlag, flag, headerBack]
  simp only [List.cons_append, List.getElem!_cons_zero]

/-- The magic and version fields hold the format's magic. -/
theorem field_magic_headerWith (fits : name.length ≤ 100) (sum8 : sum.length = 8) :
    (Header.mk ⟨(headerWith format name typeFlag size sum).toArray⟩).field 257 6 =
        ⟨(format.magic.take 6).toArray⟩ ∧
      (Header.mk ⟨(headerWith format name typeFlag size sum).toArray⟩).field 263 2 =
        ⟨(format.magic.drop 6).toArray⟩ := by
  have lengthFront := length_headerFront fits size
  have take6 : (format.magic.take 6).length = 6 := by simp [length_magic]
  have drop6 : (format.magic.drop 6).length = 2 := by simp [length_magic]
  have split : headerWith format name typeFlag size sum =
      headerFront name size ++ sum ++ typeFlag :: List.replicate 100 0 ++ format.magic.take 6 ++
        (format.magic.drop 6 ++ List.replicate 247 0) := by
    rw [headerWith, headerBack]
    conv_lhs => rw [← List.take_append_drop 6 format.magic]
    simp only [List.append_assoc, List.cons_append]
  constructor
  · have field := field_of_eq _ _ _ _ split
    rwa [take6, List.length_append, List.length_append, lengthFront, sum8, List.length_cons,
      List.length_replicate] at field
  · have field := field_of_eq (headerWith format name typeFlag size sum)
      (headerFront name size ++ sum ++ typeFlag :: List.replicate 100 0 ++ format.magic.take 6) (format.magic.drop 6) (List.replicate 247 0)
      (by rw [split]; simp only [List.append_assoc])
    rwa [drop6, List.length_append, List.length_append, List.length_append, lengthFront, sum8,
      List.length_cons, List.length_replicate, take6] at field

/-- Every header the writer writes is in a format the reader knows. -/
theorem known_headerWith (fits : name.length ≤ 100) (sum8 : sum.length = 8) :
    ((Header.mk ⟨(headerWith format name typeFlag size sum).toArray⟩).isGnu ||
      (Header.mk ⟨(headerWith format name typeFlag size sum).toArray⟩).isUstar) = true := by
  obtain ⟨magic, version⟩ := field_magic_headerWith format typeFlag size fits sum8
  cases format with
  | ustar =>
    have ustar : (Header.mk ⟨(headerWith .ustar name typeFlag size sum).toArray⟩).isUstar = true := by
      rw [Header.isUstar, magic, version]
      decide
    rw [ustar, Bool.or_true]
  | gnu =>
    have gnu : (Header.mk ⟨(headerWith .gnu name typeFlag size sum).toArray⟩).isGnu = true := by
      rw [Header.isGnu, magic, version]
      decide
    rw [gnu, Bool.true_or]

/-- The path of a written header is its name: the prefix field is left empty. -/
theorem pathBytes_headerWith (fits : name.length ≤ 100) (noZero : 0 ∉ name) (sum8 : sum.length = 8) :
    (Header.mk ⟨(headerWith format name typeFlag size sum).toArray⟩).pathBytes = ⟨name.toArray⟩ := by
  have nameField := field_of_eq (headerWith format name typeFlag size sum) [] (textField 100 name)
    (numberField 8 0o600 ++ numberField 8 0 ++ numberField 8 0 ++ numberField 12 size ++
      numberField 12 0 ++ sum ++ headerBack format typeFlag)
    (by simp only [headerWith, headerFront, List.append_assoc, List.nil_append])
  rw [List.length_nil, length_textField fits] at nameField
  have zeros : List.replicate 247 (0 : UInt8) =
      List.replicate 80 0 ++ List.replicate 155 0 ++ List.replicate 12 0 := by
    simp only [← List.replicate_add]
  have prefixField := field_of_eq (headerWith format name typeFlag size sum)
    (headerFront name size ++ sum ++ typeFlag :: List.replicate 100 0 ++ format.magic ++
      List.replicate 80 0) (List.replicate 155 0) (List.replicate 12 0)
    (by simp only [headerWith, headerBack, zeros, List.append_assoc, List.cons_append])
  simp only [List.length_append, List.length_cons, List.length_replicate, length_headerFront fits,
    sum8, length_magic] at prefixField
  have noPrefix : untilZero ⟨(List.replicate 155 (0 : UInt8)).toArray⟩ = ⟨#[]⟩ := by
    have frame : untilZero ⟨(([] : List UInt8) ++ 0 :: List.replicate 154 0).toArray⟩ =
        ⟨([] : List UInt8).toArray⟩ :=
      untilZero_frame List.not_mem_nil
    simpa using frame
  unfold Header.pathBytes
  simp only [nameField, prefixField, untilZero_textField noZero, noPrefix]
  split <;> rfl

end Written

theorem length_blockData (data : List UInt8) :
    (blockData data).length = (data.length + 511) / blockSize * blockSize := by
  simp only [blockData, List.length_append, List.length_replicate, blockSize]
  omega

/-! ## The checksum -/

theorem byteSum_append (a b : List UInt8) : byteSum (a ++ b) = byteSum a + byteSum b := by
  induction a with
  | nil => simp [byteSum]
  | cons x a ih =>
    simp only [List.cons_append, byteSum, ih]
    omega

theorem byteSum_le (bytes : List UInt8) : byteSum bytes ≤ 255 * bytes.length := by
  induction bytes with
  | nil => simp [byteSum]
  | cons b bytes ih =>
    have low : b.toNat < 256 := b.toNat_lt
    simp only [byteSum, List.length_cons] at ih ⊢
    omega

/-- A fold that adds the bytes at `start + i` for `i < k` adds up those bytes; past the end of
the list a byte counts as zero. -/
theorem foldl_range_byteSum {f : Nat → Nat → Nat} (l : List UInt8) (start k : Nat)
    (step : ∀ acc i, i < k → f acc (start + i) = acc + (l[start + i]!).toNat) (acc : Nat) :
    ((List.range k).map (start + ·)).foldl f acc = acc + byteSum ((l.drop start).take k) := by
  induction k with
  | zero => simp [byteSum]
  | succ k ih =>
    rw [List.range_succ, List.map_append, List.foldl_append,
      ih fun a i lt => step a i (Nat.lt_succ_of_lt lt), List.map_singleton, List.foldl_cons,
      List.foldl_nil, step _ k (Nat.lt_succ_self k), List.take_add_one, byteSum_append,
      List.getElem?_drop, List.getElem!_eq_getElem?_getD]
    cases l[start + k]? with
    | none => simp [byteSum]; rfl
    | some b => simp [byteSum]; omega

/-- A fold whose step changes nothing leaves its start. -/
theorem foldl_skip {f : Nat → Nat → Nat} (is : List Nat) (step : ∀ acc, ∀ i ∈ is, f acc i = acc)
    (acc : Nat) : is.foldl f acc = acc := by
  induction is generalizing acc with
  | nil => rfl
  | cons i is ih =>
    rw [List.foldl_cons, step acc i List.mem_cons_self]
    exact ih (fun a j member => step a j (List.mem_cons_of_mem i member)) acc

/-- The checksum the reader computes counts every byte of the block but those of the
checksum field, which count as spaces. -/
theorem blockSum_eq (l : List UInt8) :
    (Header.mk ⟨l.toArray⟩).blockSum =
      byteSum (l.take 148) + byteSum ((l.drop 156).take 356) + 8 * 32 := by
  have shift : ((148 + ·) ∘ (8 + ·) : Nat → Nat) = (156 + ·) := by
    funext x
    simp only [Function.comp]
    omega
  have pieces : List.range 512 = (List.range 148).map (0 + ·) ++
      ((List.range 8).map (148 + ·) ++ (List.range 356).map (156 + ·)) := by
    rw [show 512 = 148 + (8 + 356) from rfl, List.range_add, List.range_add, List.map_append,
      List.map_map, shift]
    simp
  unfold Header.blockSum
  rw [pieces, List.foldl_append, List.foldl_append]
  rw [foldl_range_byteSum l 0 148 (fun acc i lt => by
      rw [if_neg (by simp only [Bool.and_eq_true, decide_eq_true_eq]; omega), get!_mk])]
  rw [foldl_skip ((List.range 8).map (148 + ·)) (fun acc i member => by
      obtain ⟨j, lt, rfl⟩ := List.mem_map.mp member
      rw [List.mem_range] at lt
      rw [if_pos (by simp only [Bool.and_eq_true, decide_eq_true_eq]; omega)])]
  rw [foldl_range_byteSum l 156 356 (fun acc i lt => by
      rw [if_neg (by simp only [Bool.and_eq_true, decide_eq_true_eq]; omega), get!_mk])]
  simp only [Nat.zero_add, List.drop_zero]

section Written

variable (format : Format) {name : List UInt8} (typeFlag : UInt8) (size : Nat) {sum : List UInt8}

/-- A written header's checksum, as the reader computes it, is the one the writer computes
with the checksum field blank. -/
theorem blockSum_headerWith (fits : name.length ≤ 100) (sum8 : sum.length = 8) :
    (Header.mk ⟨(headerWith format name typeFlag size sum).toArray⟩).blockSum =
      byteSum (headerWith format name typeFlag size (List.replicate 8 32)) := by
  have front : (headerFront name size ++ sum ++ headerBack format typeFlag).take 148 =
      headerFront name size := by
    rw [List.append_assoc, List.take_left' (length_headerFront fits size)]
  have back : ((headerFront name size ++ sum ++ headerBack format typeFlag).drop 156).take 356 =
      headerBack format typeFlag := by
    rw [List.drop_left' (by rw [List.length_append, length_headerFront fits, sum8]),
      List.take_of_length_le (by rw [length_headerBack])]
  have spaces : byteSum (List.replicate 8 32) = 8 * 32 := by decide
  rw [blockSum_eq, headerWith, headerWith, front, back, byteSum_append, byteSum_append, spaces]
  omega

/-- The checksum field of a written block. -/
theorem field_sum_headerBlock (fits : name.length ≤ 100) :
    (Header.mk ⟨(headerBlock format name typeFlag size).toArray⟩).field 148 8 =
      ⟨(textBytes (octalDigits 6 (byteSum (headerWith format name typeFlag size
        (List.replicate 8 32)))) ++ 0 :: [32]).toArray⟩ := by
  have ascii :=
    ascii_octalDigits 6 (byteSum (headerWith format name typeFlag size (List.replicate 8 32)))
  have sum8 : (textBytes (octalDigits 6 (byteSum (headerWith format name typeFlag size
      (List.replicate 8 32)))) ++ [0, 32]).length = 8 := by
    rw [List.length_append, length_textBytes_ascii ascii, length_octalDigits]
    rfl
  exact field_sum_headerWith format typeFlag size fits sum8

/-- The sum of a block's bytes fits the six octal digits of its field. -/
theorem byteSum_headerWith_lt (fits : name.length ≤ 100) :
    byteSum (headerWith format name typeFlag size (List.replicate 8 32)) < Nat.pow 8 6 := by
  have length : (headerWith format name typeFlag size (List.replicate 8 32)).length = 512 := by
    simp only [headerWith, List.length_append, length_headerFront fits, List.length_replicate,
      length_headerBack]
  have bound := byteSum_le (headerWith format name typeFlag size (List.replicate 8 32))
  rw [length] at bound
  exact Nat.lt_of_le_of_lt bound (by decide)


/-- A size field as written reads back as the size. -/
theorem numericField_numberField {n : Nat} (small : n < Nat.pow 8 11) :
    numericField ⟨(numberField 12 n).toArray⟩ = .ok n := by
  obtain ⟨c, cs, digits⟩ := List.exists_cons_of_length_pos
    (by rw [length_octalDigits]; decide : 0 < (octalDigits 11 n).length)
  obtain ⟨k, lt, code⟩ := octal_of_mem_octalDigits (digits ▸ List.mem_cons_self : c ∈ octalDigits 11 n)
  have ascii := ascii_octalDigits 11 n
  have first : (ByteArray.mk (numberField 12 n).toArray).get! 0 = UInt8.ofNat (48 + k) := by
    have eleven : numberField 12 n = textBytes (octalDigits 11 n) ++ [0] := rfl
    rw [get!_mk, eleven, textBytes_ascii ascii, digits, List.map_cons, List.cons_append,
      List.getElem!_cons_zero, code]
  have plain : (UInt8.ofNat (48 + k) &&& 0x80 != 0) = false := by
    have all : ∀ k < 8, (UInt8.ofNat (48 + k) &&& 0x80 != 0) = false := by decide
    exact all k lt
  have octal := octalField_numberField n [] (by decide : 2 ≤ 12) (by decide)
  rw [List.append_nil, Nat.mod_eq_of_lt small] at octal
  unfold numericField
  rw [first, plain]
  exact octal

/-- A written block is its header with the checksum the writer computes. -/
theorem headerBlock_eq : headerBlock format name typeFlag size = headerWith format name typeFlag size
    (textBytes (octalDigits 6 (byteSum (headerWith format name typeFlag size (List.replicate 8 32)))) ++
      [0, 32]) := rfl

theorem length_sumField (s : Nat) : (textBytes (octalDigits 6 s) ++ [0, 32]).length = 8 := by
  have ascii := ascii_octalDigits 6 s
  rw [List.length_append, length_textBytes_ascii ascii, length_octalDigits]
  rfl

theorem length_headerBlock (fits : name.length ≤ 100) :
    (headerBlock format name typeFlag size).length = 512 := by
  rw [headerBlock_eq, headerWith, List.length_append, List.length_append, length_headerFront fits,
    length_sumField, length_headerBack]

/-- A header block takes a whole block at least, however long the name it is given. -/
theorem blockSize_le_length_headerBlock :
    blockSize ≤ (headerBlock format name typeFlag size).length := by
  have front : 148 ≤ (headerFront name size).length := by
    simp only [headerFront, textField, List.length_append, List.length_replicate,
      length_numberField _ _ (by decide : 0 < 8), length_numberField _ _ (by decide : 0 < 12)]
    omega
  rw [headerBlock_eq, headerWith, List.length_append, List.length_append, length_sumField,
    length_headerBack]
  show 512 ≤ _
  omega

theorem typeFlag_headerBlock (fits : name.length ≤ 100) :
    (Header.mk ⟨(headerBlock format name typeFlag size).toArray⟩).typeFlag = typeFlag := by
  rw [headerBlock_eq]
  exact typeFlag_headerWith format typeFlag size fits (length_sumField _)

theorem known_headerBlock (fits : name.length ≤ 100) :
    ((Header.mk ⟨(headerBlock format name typeFlag size).toArray⟩).isGnu ||
      (Header.mk ⟨(headerBlock format name typeFlag size).toArray⟩).isUstar) = true := by
  rw [headerBlock_eq]
  exact known_headerWith format typeFlag size fits (length_sumField _)

theorem pathBytes_headerBlock (fits : name.length ≤ 100) (noZero : 0 ∉ name) :
    (Header.mk ⟨(headerBlock format name typeFlag size).toArray⟩).pathBytes = ⟨name.toArray⟩ := by
  rw [headerBlock_eq]
  exact pathBytes_headerWith format typeFlag size fits noZero (length_sumField _)

/-- The size field of a written block reads back as the size. -/
theorem numericField_headerBlock (fits : name.length ≤ 100) (small : size < Nat.pow 8 11) :
    numericField ((Header.mk ⟨(headerBlock format name typeFlag size).toArray⟩).field 124 12) =
      .ok size := by
  rw [headerBlock, field_size_headerWith format typeFlag size fits, numericField_numberField small]

/-- A written block is no end-of-archive block: its magic is not zero. -/
theorem isZero_headerWith :
    (Header.mk ⟨(headerWith format name typeFlag size sum).toArray⟩).isZero = false := by
  have magic : (117 : UInt8) ∈ format.magic := by cases format <;> decide
  have present : (117 : UInt8) ∈ headerWith format name typeFlag size sum := by
    simp only [headerWith, headerBack, List.mem_append]
    exact Or.inr (Or.inl (Or.inr magic))
  unfold Header.isZero
  rw [List.all_toArray]
  exact List.all_eq_false.mpr ⟨117, present, by decide⟩

/-- A written block passes the reader's checks: it is not zero, its checksum matches, and its
size field gives the member's size. The next header then starts after the member's data,
padded to whole blocks. -/
theorem readHeader_headerBlock (fits : name.length ≤ 100) (small : size < Nat.pow 8 11)
    (next : Nat) (pax : Option ByteArray) (sizeKept : size = 0 → (pax.bind paxSize).getD 0 = 0)
    (room : next + blockSize + (size + 511) / blockSize * blockSize < sizeLimit) :
    readHeader ⟨(headerBlock format name typeFlag size).toArray⟩ next pax =
      .ok (some (⟨⟨(headerBlock format name typeFlag size).toArray⟩⟩, size,
        next + blockSize + (size + 511) / blockSize * blockSize)) := by
  have octal : ∀ c ∈ octalDigits 6 (byteSum (headerWith format name typeFlag size
      (List.replicate 8 32))), ∃ k < 8, c.toNat = 48 + k := fun _ member =>
    octal_of_mem_octalDigits member
  have sum8 : (textBytes (octalDigits 6 (byteSum (headerWith format name typeFlag size
      (List.replicate 8 32)))) ++ [0, 32]).length = 8 := by
    rw [List.length_append, length_textBytes_ascii (ascii_of_octal octal), length_octalDigits]
    rfl
  have below := byteSum_headerWith_lt format typeFlag size fits
  have stored : octalField ((Header.mk ⟨(headerBlock format name typeFlag size).toArray⟩).field
      148 8) = .ok (byteSum (headerWith format name typeFlag size (List.replicate 8 32))) := by
    have nonempty : octalDigits 6 (byteSum (headerWith format name typeFlag size
        (List.replicate 8 32))) ≠ [] := by
      rw [← List.length_pos_iff, length_octalDigits]
      decide
    rw [field_sum_headerBlock format typeFlag size fits, octalField_digits [32] nonempty octal
      (by rw [ofDigitChars_octalDigits]; exact Nat.lt_trans (Nat.mod_lt _ (by decide)) (by decide)),
      ofDigitChars_octalDigits, Nat.mod_eq_of_lt below]
  have checked : (Header.mk ⟨(headerBlock format name typeFlag size).toArray⟩).blockSum =
      byteSum (headerWith format name typeFlag size (List.replicate 8 32)) :=
    blockSum_headerWith format typeFlag size fits sum8
  have declared := numericField_headerBlock format typeFlag size fits small
  have kept : (if (size == 0) = true then (pax.bind paxSize).getD 0 else size) = size := by
    by_cases empty : size = 0
    · rw [if_pos (by simp [empty]), sizeKept empty, empty]
    · rw [if_neg (by simp [empty])]
  have notZero : (Header.mk ⟨(headerBlock format name typeFlag size).toArray⟩).isZero = false :=
    isZero_headerWith format typeFlag size
  have wrap : byteSum (headerWith format name typeFlag size (List.replicate 8 32)) % Nat.pow 2 32 =
      byteSum (headerWith format name typeFlag size (List.replicate 8 32)) :=
    Nat.mod_eq_of_lt (Nat.lt_trans below (by decide))
  have limits : Nat.pow 8 11 + 511 < sizeLimit := by decide
  have sizeFits : ¬(size + 511 ≥ sizeLimit) := by omega
  have nextFits : ¬(next + blockSize + (size + 511) / blockSize * blockSize ≥ sizeLimit) := by omega
  unfold readHeader
  simp only [notZero, stored, checked, declared, kept, wrap, bne_self_eq_false, sizeFits, nextFits,
    Bool.false_eq_true, if_false, bind, Except.bind, pure, Except.pure]

end Written

end ChartCatalog.Tar
