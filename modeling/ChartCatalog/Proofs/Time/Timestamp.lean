import ChartCatalog.Proofs.Time.Calendar
import ChartCatalog.Time.Rfc3339
import Mathlib.Data.Nat.Digits.Defs
import Mathlib.Data.List.TakeWhile

/-!
# Reading back written timestamps

An instant as a date-time value is `Instant.Valid`: a second of the day, fewer than two
seconds' worth of nanoseconds, a leap second only at the last second of a minute, and a
year between -262 144 and 262 143.

Every valid instant reads back from its text: relaxed reading takes back the text ending
in `Z` (`parse?_text`), and strict reading takes back the text ending in `+00:00` when
the year has four digits (`parseStrict?_textWithOffset`). What strict reading gives is
always a valid instant (`parseStrict?_valid`).

Both readings go through the text field by field: each number is written with enough
digits (`padded`) and read back up to the next separator, which is no digit.
-/

set_option autoImplicit false

namespace ChartCatalog.Instant

/-- An instant as a date-time value. -/
structure Valid (t : Instant) : Prop where
  second_lt : t.second < 86400
  nano_lt : t.nano < 2000000000
  /-- A leap second is the sixtieth second of its minute. -/
  leap : 1000000000 ≤ t.nano → t.second % 60 = 59
  year_ge : -262144 ≤ t.date.year
  year_le : t.date.year ≤ 262143

/-! ## Digits -/

/-- A decimal digit character counts as its value. -/
theorem digitChar_toNat {d : Nat} (lt : d < 10) : d.digitChar.toNat - 48 = d := by
  interval_cases d <;> rfl

/-- The digits of a number, read most significant first, give the number. -/
theorem foldl_toDigits (n : Nat) :
    (Nat.toDigits 10 n).foldl (fun v d => 10 * v + (d.toNat - 48)) 0 = n := by
  induction n using Nat.strong_induction_on with
  | _ n ih =>
    rw [Nat.toDigits_eq_if (by omega)]
    split
    · rename_i small
      simp [digitChar_toNat small]
    · rename_i large
      rw [List.foldl_append, ih (n / 10) (by omega)]
      simp only [List.foldl_cons, List.foldl_nil, digitChar_toNat (Nat.mod_lt n (by omega))]
      omega

/-- Leading zeros add nothing to the value. -/
theorem foldl_zeros_append (k : Nat) (ds : List Char) :
    (List.replicate k '0' ++ ds).foldl (fun v d => 10 * v + (d.toNat - 48)) 0 =
      ds.foldl (fun v d => 10 * v + (d.toNat - 48)) 0 := by
  have zeros : ∀ k, (List.replicate k '0').foldl (fun v d => 10 * v + (d.toNat - 48)) 0 = 0 := by
    intro k
    induction k with
    | zero => rfl
    | succ k ih => simpa [List.replicate_succ] using ih
  rw [List.foldl_append, zeros]

/-- Trailing zeros shift the value by a power of ten. -/
theorem foldl_append_zeros (k : Nat) (ds : List Char) :
    (ds ++ List.replicate k '0').foldl (fun v d => 10 * v + (d.toNat - 48)) 0 =
      ds.foldl (fun v d => 10 * v + (d.toNat - 48)) 0 * 10 ^ k := by
  rw [List.foldl_append]
  generalize ds.foldl (fun v d => 10 * v + (d.toNat - 48)) 0 = v
  induction k generalizing v with
  | zero => simp
  | succ k ih =>
    have zero : '0'.toNat - 48 = 0 := rfl
    rw [List.replicate_succ, List.foldl_cons, ih, zero]
    ring

theorem isDigit_of_mem_padded {width n : Nat} {c : Char} (mem : c ∈ (padded width n).toList) :
    c.isDigit = true := by
  simp only [padded, String.toList_ofList, List.mem_append, List.mem_replicate] at mem
  rcases mem with ⟨_, rfl⟩ | digit
  · rfl
  · exact Nat.isDigit_of_mem_toDigits (by omega) (by omega) digit

theorem length_padded {width n : Nat} (positive : 0 < width) (fits : n < 10 ^ width) :
    (padded width n).toList.length = width := by
  have short := (Nat.length_toDigits_le_iff (by omega) positive).2 fits
  simp only [padded, String.toList_ofList, List.length_append, List.length_replicate]
  omega

theorem foldl_padded (width n : Nat) :
    (padded width n).toList.foldl (fun v d => 10 * v + (d.toNat - 48)) 0 = n := by
  simp only [padded, String.toList_ofList, foldl_zeros_append, foldl_toDigits]

theorem padded_ne_empty (width n : Nat) : padded width n ≠ "" := by
  intro empty
  have length := congrArg (fun s : String => s.toList.length) empty
  simp only [padded, String.toList_ofList, List.length_append] at length
  simp at length

/-! ## Reading numbers -/

/-- Text whose first character, if any, is no digit. -/
def StartsWithoutDigit (cs : List Char) : Prop := ∀ c, cs.head? = some c → c.isDigit = false

theorem takeWhile_padded_append {width n : Nat} {rest : List Char}
    (boundary : StartsWithoutDigit rest) :
    ((padded width n).toList ++ rest).takeWhile Char.isDigit = (padded width n).toList := by
  rw [List.takeWhile_append_of_pos fun c mem => isDigit_of_mem_padded mem]
  have stop : rest.takeWhile Char.isDigit = [] := by
    cases rest with
    | nil => rfl
    | cons c tail => simp [boundary c rfl]
  simp [stop]

/-- Exactly `width` digits read back a number written in `width` digits. -/
theorem takeDigits_padded {width n : Nat} (positive : 0 < width) (fits : n < 10 ^ width)
    (rest : List Char) : takeDigits width ((padded width n).toList ++ rest) = some (n, rest) := by
  have length := length_padded positive fits
  have digits : ((padded width n).toList.all Char.isDigit) = true :=
    List.all_eq_true.2 fun c mem => isDigit_of_mem_padded mem
  simp [takeDigits, List.take_left' length, List.drop_left' length, length, digits,
    foldl_padded]

/-- Up to `bound` digits read back a number written in at most `bound` digits, when the
digits end there. -/
theorem takeUpTo_padded {bound width n : Nat} {rest : List Char}
    (short : (padded width n).toList.length ≤ bound) (boundary : StartsWithoutDigit rest) :
    takeUpTo bound ((padded width n).toList ++ rest) = some (n, rest) := by
  simp [takeUpTo, takeWhile_padded_append boundary, List.take_of_length_le short,
    padded_ne_empty, foldl_padded]

/-! ## The fields of an instant -/

/-- The second within its minute as written: `60` during a leap second. -/
def writtenSecond (t : Instant) : Nat :=
  t.second % 60 + (if t.nano ≥ 1000000000 then 1 else 0)

/-- The nanoseconds as written: those of the second, a leap second's billion taken off. -/
def writtenNano (t : Instant) : Nat :=
  if t.nano ≥ 1000000000 then t.nano - 1000000000 else t.nano

variable {t : Instant}

theorem writtenSecond_le (t : Instant) : t.writtenSecond ≤ 60 := by
  unfold writtenSecond
  split <;> omega

theorem Valid.writtenNano_lt (valid : t.Valid) : t.writtenNano < 1000000000 := by
  have := valid.nano_lt
  unfold writtenNano
  split <;> omega

/-- The local time written for an instant, at offset zero, is the instant. -/
theorem Valid.ofLocal_fields (valid : t.Valid) :
    ofLocal t.date (t.second / 3600) (t.second / 60 % 60) t.writtenSecond t.writtenNano 0 = t := by
  have second_lt := valid.second_lt
  have back : t.date.toDays = t.day := CivilDate.toDays_ofDays t.day
  unfold ofLocal writtenSecond writtenNano
  rw [back]
  by_cases leap : t.nano ≥ 1000000000
  · have last := valid.leap leap
    simp only [leap, if_true, beq_iff_eq, show t.second % 60 + 1 = 60 by omega]
    obtain ⟨day, second, nano⟩ := t
    simp only at second_lt last leap ⊢
    congr 1 <;> omega
  · have notSixty : t.second % 60 + 0 ≠ 60 := by omega
    simp only [leap, if_false, beq_iff_eq, notSixty]
    obtain ⟨day, second, nano⟩ := t
    simp only at second_lt leap ⊢
    congr 1 <;> omega

/-- The year as written: four digits from 0 to 9999, a sign and at least four digits
otherwise. -/
def writtenYear (year : Int) : String :=
  if 0 ≤ year && year ≤ 9999 then padded 4 year.toNat
  else (if year < 0 then "-" else "+") ++ padded 4 year.natAbs

/-- The written text of an instant, field by field. -/
theorem localText_toList (t : Instant) : (localText t).toList =
    (writtenYear t.date.year).toList ++ '-' :: (padded 2 t.date.month).toList ++
      '-' :: (padded 2 t.date.day).toList ++ 'T' :: (padded 2 (t.second / 3600)).toList ++
      ':' :: (padded 2 (t.second / 60 % 60)).toList ++ ':' :: (padded 2 t.writtenSecond).toList ++
      (fractionText t.writtenNano).toList := by
  have unfolded : localText t = writtenYear t.date.year ++ "-" ++ padded 2 t.date.month ++ "-" ++
      padded 2 t.date.day ++ "T" ++ padded 2 (t.second / 3600) ++ ":" ++
      padded 2 (t.second / 60 % 60) ++ ":" ++ padded 2 t.writtenSecond ++
      fractionText t.writtenNano := rfl
  rw [unfolded]
  simp [String.toList_append]

/-! ## Reading the fields back -/

theorem isSkippable_eq_false_of_isDigit {c : Char} (digit : c.isDigit = true) :
    isSkippable c = false := by
  simp only [isSkippable, Bool.or_eq_false_iff, beq_eq_false_iff_ne, ne_eq]
  refine ⟨⟨⟨?_, ?_⟩, ?_⟩, ?_⟩ <;> rintro rfl <;> exact absurd digit (by decide)

theorem dropWhile_skippable_cons {c : Char} (rest : List Char) (notBlank : isSkippable c = false) :
    (c :: rest).dropWhile isSkippable = c :: rest := by
  simp [notBlank]

theorem dropWhile_skippable_padded (width n : Nat) (rest : List Char) :
    ((padded width n).toList ++ rest).dropWhile isSkippable = (padded width n).toList ++ rest := by
  obtain ⟨c, tail, first⟩ : ∃ c tail, (padded width n).toList = c :: tail :=
    List.exists_cons_of_ne_nil fun empty => padded_ne_empty width n (String.toList_eq_nil_iff.1 empty)
  have digit : c.isDigit = true := isDigit_of_mem_padded (first ▸ List.mem_cons_self)
  rw [first, List.cons_append, dropWhile_skippable_cons _ (isSkippable_eq_false_of_isDigit digit)]

theorem length_padded_le {width k n : Nat} (positive : 0 < k) (le : width ≤ k) (fits : n < 10 ^ k) :
    (padded width n).toList.length ≤ k := by
  have short := (Nat.length_toDigits_le_iff (by omega) positive).2 fits
  simp only [padded, String.toList_ofList, List.length_append, List.length_replicate]
  omega

theorem startsWithoutDigit_cons {c : Char} (rest : List Char) (notDigit : c.isDigit = false) :
    StartsWithoutDigit (c :: rest) := by
  intro d first
  cases first
  exact notDigit

/-- A year without a sign is read as up to four digits. -/
theorem takeYear_of_isDigit {c : Char} (digit : c.isDigit = true) (cs : List Char) :
    takeYear (c :: cs) = (takeUpTo 4 (c :: cs)).map fun (v, r) => ((v : Int), r) := by
  unfold takeYear
  split
  · rename_i rest signed
    cases signed
    exact absurd digit (by decide)
  · rename_i rest signed
    cases signed
    exact absurd digit (by decide)
  · rfl

/-- A written year reads back, up to the dash that ends it. -/
theorem takeYear_writtenYear {year : Int} (lo : -262144 ≤ year) (hi : year ≤ 262143)
    (rest : List Char) :
    takeYear (((writtenYear year).toList ++ '-' :: rest).dropWhile isSkippable) =
      some (year, '-' :: rest) := by
  have boundary := startsWithoutDigit_cons rest (c := '-') (by decide)
  unfold writtenYear
  by_cases fourDigits : 0 ≤ year ∧ year ≤ 9999
  · have written : (0 ≤ year && year ≤ 9999) = true := by simpa using fourDigits
    rw [if_pos written, dropWhile_skippable_padded]
    obtain ⟨c, tail, first⟩ : ∃ c tail, (padded 4 year.toNat).toList = c :: tail :=
      List.exists_cons_of_ne_nil fun empty =>
        padded_ne_empty 4 year.toNat (String.toList_eq_nil_iff.1 empty)
    have digit : c.isDigit = true := isDigit_of_mem_padded (first ▸ List.mem_cons_self)
    have read : takeUpTo 4 ((padded 4 year.toNat).toList ++ '-' :: rest) =
        some (year.toNat, '-' :: rest) :=
      takeUpTo_padded (length_padded_le (by omega) le_rfl (by omega)) boundary
    rw [first, List.cons_append, takeYear_of_isDigit digit, ← List.cons_append, ← first, read]
    simp [Int.toNat_of_nonneg fourDigits.1]
  · have written : (0 ≤ year && year ≤ 9999) = false := by simpa using fourDigits
    have read : takeUpTo 1000 ((padded 4 year.natAbs).toList ++ '-' :: rest) =
        some (year.natAbs, '-' :: rest) :=
      takeUpTo_padded (le_trans (length_padded_le (k := 6) (by omega) (by omega) (by omega))
        (by omega)) boundary
    rw [if_neg (by simp [written])]
    by_cases negative : year < 0
    · have dash : ("-" : String).toList = ['-'] := rfl
      rw [if_pos negative, String.toList_append, dash, List.singleton_append, List.cons_append,
        dropWhile_skippable_cons _ (by decide)]
      simp only [takeYear, read, Option.map_some, Option.some.injEq, Prod.mk.injEq, and_true]
      omega
    · have plus : ("+" : String).toList = ['+'] := rfl
      rw [if_neg negative, String.toList_append, plus, List.singleton_append, List.cons_append,
        dropWhile_skippable_cons _ (by decide)]
      simp only [takeYear, read, Option.map_some, Option.some.injEq, Prod.mk.injEq, and_true]
      omega

/-- A fraction written in `width` digits counts its nanoseconds with the missing digits as
zeros. -/
theorem fractionNanos_padded {width n : Nat} (positive : 0 < width) (le : width ≤ 9)
    (fits : n < 10 ^ width) : fractionNanos (padded width n).toList = n * 10 ^ (9 - width) := by
  have length := length_padded positive fits
  have nine : ((padded width n).toList ++ List.replicate 9 '0').take 9 =
      (padded width n).toList ++ List.replicate (9 - width) '0' := by
    rw [List.take_append, List.take_of_length_le (by omega), List.take_replicate, length]
    congr 2
    omega
  rw [fractionNanos, nine, foldl_append_zeros, foldl_padded]

/-- A written fraction reads back, up to the character after it, which is neither a point
nor a digit. -/
theorem takeFraction_fractionText {nano : Nat} (lt : nano < 1000000000) {c : Char}
    (tail : List Char) (notPoint : c ≠ '.') (notDigit : c.isDigit = false) :
    takeFraction ((fractionText nano).toList ++ c :: tail) = some (nano, c :: tail) := by
  have boundary := startsWithoutDigit_cons tail notDigit
  -- the digits after the point are read up to `c`, and the point is written only before them
  have digitsAfterPoint : ∀ (width m : Nat), 0 < width → width ≤ 9 → m < 10 ^ width →
      takeFraction (("." ++ padded width m).toList ++ c :: tail) =
        some (m * 10 ^ (9 - width), c :: tail) := by
    intro width m positive le fits
    have point : ("." : String).toList = ['.'] := rfl
    simp [String.toList_append, point, takeFraction, takeWhile_padded_append boundary,
      padded_ne_empty, fractionNanos_padded positive le fits]
  unfold fractionText
  split
  · rename_i zero
    have zero : nano = 0 := by simpa using zero
    subst zero
    simp [takeFraction, notPoint]
  · split
    · rename_i millis
      have millis : nano % 1000000 = 0 := by simpa using millis
      rw [digitsAfterPoint 3 _ (by omega) (by omega) (by omega)]
      congr 2
      omega
    · split
      · rename_i micros
        have micros : nano % 1000 = 0 := by simpa using micros
        rw [digitsAfterPoint 6 _ (by omega) (by omega) (by omega)]
        congr 2
        omega
      · rw [digitsAfterPoint 9 _ (by omega) (by omega) (by omega)]
        simp

/-- A fraction is written empty or from a point on. -/
theorem fractionText_shape (nano : Nat) :
    fractionText nano = "" ∨ ∃ digits, fractionText nano = "." ++ digits := by
  unfold fractionText
  split
  · exact .inl rfl
  · split
    · exact .inr ⟨_, rfl⟩
    · split
      · exact .inr ⟨_, rfl⟩
      · exact .inr ⟨_, rfl⟩

theorem startsWithoutDigit_fractionText (nano : Nat) {c : Char} (tail : List Char)
    (notDigit : c.isDigit = false) : StartsWithoutDigit ((fractionText nano).toList ++ c :: tail) := by
  rcases fractionText_shape nano with empty | ⟨digits, point⟩
  · rw [empty]
    exact startsWithoutDigit_cons tail notDigit
  · have pointFirst : ("." ++ digits).toList = '.' :: digits.toList := by
      simp [String.toList_append, show ("." : String).toList = ['.'] from rfl]
    rw [point, pointFirst, List.cons_append]
    exact startsWithoutDigit_cons _ (by decide)

/-- A two-digit field reads back up to the separator after it. -/
theorem takeUpTo_two_padded {n : Nat} (fits : n < 100) {rest : List Char}
    (boundary : StartsWithoutDigit rest) :
    takeUpTo 2 (((padded 2 n).toList ++ rest).dropWhile isSkippable) = some (n, rest) := by
  rw [dropWhile_skippable_padded]
  exact takeUpTo_padded (length_padded_le (by omega) le_rfl (by omega)) boundary

theorem expect_dropWhile_skippable {c : Char} (rest : List Char) (notBlank : isSkippable c = false) :
    expect c ((c :: rest).dropWhile isSkippable) = some rest := by
  simp [dropWhile_skippable_cons rest notBlank, expect]

theorem monthLength_le (year : Int) (month : Nat) : CivilDate.monthLength year month ≤ 31 := by
  unfold CivilDate.monthLength
  split <;> (try split) <;> omega

/-- The fields written for a valid instant name it again. -/
theorem Valid.ofFields?_fields (valid : t.Valid) :
    ofFields? t.date.year t.date.month t.date.day (t.second / 3600) (t.second / 60 % 60)
      t.writtenSecond t.writtenNano 0 = some t := by
  have second_lt := valid.second_lt
  have sixty := writtenSecond_le t
  have exists' : CivilDate.isValid ⟨t.date.year, t.date.month, t.date.day⟩ = true :=
    CivilDate.isValid_ofDays t.day
  unfold ofFields?
  rw [if_pos (by simp [exists']; omega)]
  exact congrArg some valid.ofLocal_fields

/-- The two-digit fields of a valid instant fit in two digits: month, day, hour, minute
and the written second. -/
theorem Valid.twoDigitFields (valid : t.Valid) :
    t.date.month < 100 ∧ t.date.day < 100 ∧ t.second / 3600 < 100 ∧ t.second / 60 % 60 < 100 ∧
      t.writtenSecond < 100 := by
  have dateValid : t.date.isValid = true := CivilDate.isValid_ofDays t.day
  have monthLe := monthLength_le t.date.year t.date.month
  simp only [CivilDate.isValid, Bool.and_eq_true, decide_eq_true_eq] at dateValid
  have second_lt := valid.second_lt
  have sixty := writtenSecond_le t
  omega

/-- A step of reading that has read a value goes on with it. -/
theorem some_bind {α β : Type} (a : α) (f : α → Option β) : (some a >>= f) = f a := rfl

/-- Reading in steps gives a value exactly when each step gives one. -/
theorem bind_eq_some_iff {α β : Type} {x : Option α} {f : α → Option β} {b : β} :
    (x >>= f) = some b ↔ ∃ a, x = some a ∧ f a = some b := Option.bind_eq_some_iff

/-- Relaxed reading takes back the text of a valid instant. -/
theorem parse?_text (valid : t.Valid) : parse? t.text = some t := by
  obtain ⟨month, day, hour, minute, second⟩ := valid.twoDigitFields
  have nano_lt := valid.writtenNano_lt
  have z : ("Z" : String).toList = ['Z'] := rfl
  simp only [parse?, text, String.toList_append, localText_toList, z, List.append_assoc,
    List.cons_append]
  -- each field is read up to its separator, which is then expected and skipped
  rw [takeYear_writtenYear valid.year_ge valid.year_le, some_bind]
  dsimp only
  rw [expect_dropWhile_skippable _ (by decide), some_bind,
    takeUpTo_two_padded month (startsWithoutDigit_cons _ (c := '-') rfl), some_bind]
  dsimp only
  rw [expect_dropWhile_skippable _ (by decide), some_bind,
    takeUpTo_two_padded day (startsWithoutDigit_cons _ (c := 'T') rfl), some_bind]
  dsimp only
  rw [if_pos (by decide), some_bind,
    takeUpTo_two_padded hour (startsWithoutDigit_cons _ (c := ':') rfl), some_bind]
  dsimp only
  rw [expect_dropWhile_skippable _ (by decide), some_bind,
    takeUpTo_two_padded minute (startsWithoutDigit_cons _ (c := ':') rfl), some_bind]
  dsimp only
  rw [expect_dropWhile_skippable _ (by decide), some_bind,
    takeUpTo_two_padded second (startsWithoutDigit_fractionText _ [] (c := 'Z') rfl),
    some_bind]
  dsimp only
  rw [takeFraction_fractionText nano_lt [] (by decide) rfl, some_bind]
  dsimp only
  -- the offset `Z` is zero and ends the text
  rw [dropWhile_skippable_cons [] (by decide)]
  simp only [takeOffset, some_bind]
  simp [guard, valid.ofFields?_fields]

/-- Strict reading takes back the text with an offset of a valid instant whose year has
four digits. -/
theorem parseStrict?_textWithOffset (valid : t.Valid) (yearFrom : 0 ≤ t.date.year)
    (yearTo : t.date.year ≤ 9999) : parseStrict? t.textWithOffset = some t := by
  obtain ⟨month, day, hour, minute, second⟩ := valid.twoDigitFields
  have nano_lt := valid.writtenNano_lt
  have fourDigits : writtenYear t.date.year = padded 4 t.date.year.toNat := by
    simp [writtenYear, yearFrom, yearTo]
  have offset : ("+00:00" : String).toList = ['+', '0', '0', ':', '0', '0'] := rfl
  have expectSep : ∀ (c : Char) (rest : List Char), expect c (c :: rest) = some rest := by
    intro c rest
    simp [expect]
  simp only [parseStrict?, textWithOffset, String.toList_append, localText_toList, fourDigits,
    offset, List.append_assoc, List.cons_append]
  -- each field is read in its fixed number of digits, then its separator is expected
  rw [takeDigits_padded (by omega) (by omega), some_bind]
  dsimp only
  rw [expectSep, some_bind, takeDigits_padded (by omega) (by omega), some_bind]
  dsimp only
  rw [expectSep, some_bind, takeDigits_padded (by omega) (by omega), some_bind]
  dsimp only
  rw [if_pos (by decide), some_bind, takeDigits_padded (by omega) (by omega), some_bind]
  dsimp only
  rw [expectSep, some_bind, takeDigits_padded (by omega) (by omega), some_bind]
  dsimp only
  rw [expectSep, some_bind, takeDigits_padded (by omega) (by omega), some_bind]
  dsimp only
  rw [takeFraction_fractionText nano_lt _ (by decide) rfl, some_bind]
  dsimp only
  -- the offset `+00:00` is zero and ends the text
  have zero : takeOffset (expect ':') ['+', '0', '0', ':', '0', '0'] = some (0, []) := rfl
  rw [zero, some_bind, Int.toNat_of_nonneg yearFrom]
  simp [guard, valid.ofFields?_fields]

/-- Strict reading refuses the text of every instant whose year has no four-digit form:
that text starts with the year's sign. -/
theorem parseStrict?_textWithOffset_eq_none (outside : t.date.year < 0 ∨ 9999 < t.date.year) :
    parseStrict? t.textWithOffset = none := by
  have signed : ∃ sign rest, (writtenYear t.date.year).toList = sign :: rest ∧
      sign.isDigit = false := by
    have notFour : ¬ (0 ≤ t.date.year ∧ t.date.year ≤ 9999) := by omega
    by_cases negative : t.date.year < 0
    · exact ⟨'-', (padded 4 t.date.year.natAbs).toList,
        by simp [writtenYear, notFour, negative], by decide⟩
    · exact ⟨'+', (padded 4 t.date.year.natAbs).toList,
        by simp [writtenYear, notFour, negative], by decide⟩
  obtain ⟨sign, rest, written, notDigit⟩ := signed
  have refused : ∀ cs, takeDigits 4 (sign :: cs) = none := by
    intro cs
    simp [takeDigits, notDigit]
  simp only [parseStrict?, textWithOffset, String.toList_append, localText_toList, written,
    List.cons_append]
  rw [refused]
  rfl

/-! ## What strict reading gives -/

theorem toNat_sub_lt_of_isDigit {c : Char} (digit : c.isDigit = true) : c.toNat - 48 < 10 := by
  simp only [Char.isDigit, Bool.and_eq_true, decide_eq_true_eq, ge_iff_le,
    UInt32.le_iff_toNat_le] at digit
  have zero : ('0' : Char).val.toNat = 48 := rfl
  have nine : ('9' : Char).val.toNat = 57 := rfl
  have val : c.toNat = c.val.toNat := rfl
  omega

/-- Digits read after a value stay below the next value times ten to the power of their
count. -/
theorem foldl_digits_lt {ds : List Char} (digits : ∀ d ∈ ds, d.isDigit = true) (v : Nat) :
    ds.foldl (fun v d => 10 * v + (d.toNat - 48)) v < (v + 1) * 10 ^ ds.length := by
  induction ds generalizing v with
  | nil => simp
  | cons d rest ih =>
    have digit := toNat_sub_lt_of_isDigit (digits d List.mem_cons_self)
    have restBound := ih (fun d mem => digits d (List.mem_cons_of_mem _ mem)) (10 * v + (d.toNat - 48))
    rw [List.foldl_cons, List.length_cons, pow_succ]
    calc _ < (10 * v + (d.toNat - 48) + 1) * 10 ^ rest.length := restBound
      _ ≤ (v + 1) * 10 * 10 ^ rest.length := Nat.mul_le_mul_right _ (by omega)
      _ = (v + 1) * (10 ^ rest.length * 10) := by ring

/-- A number read in `n` digits is below ten to the `n`. -/
theorem takeDigits_lt {n value : Nat} {cs rest : List Char}
    (read : takeDigits n cs = some (value, rest)) : value < 10 ^ n := by
  unfold takeDigits at read
  dsimp only at read
  split at read
  · rename_i exact
    simp only [Bool.and_eq_true, beq_iff_eq, List.all_eq_true] at exact
    simp only [Option.some.injEq, Prod.mk.injEq] at read
    have bound := foldl_digits_lt exact.2 0
    rw [exact.1, read.1] at bound
    simpa using bound
  · cases read

/-- A fraction counts fewer than a billion nanoseconds. -/
theorem takeFraction_lt {nano : Nat} {cs rest : List Char}
    (read : takeFraction cs = some (nano, rest)) : nano < 1000000000 := by
  unfold takeFraction at read
  split at read
  · rename_i after
    dsimp only at read
    split at read
    · cases read
    · simp only [Option.some.injEq, Prod.mk.injEq] at read
      rw [← read.1, fractionNanos]
      -- the nine digits counted are the fraction's digits with zeros after them
      have digits : ∀ d ∈ ((after.takeWhile Char.isDigit) ++ List.replicate 9 '0').take 9,
          d.isDigit = true := by
        intro d mem
        rcases List.mem_append.1 (List.mem_of_mem_take mem) with early | zero
        · exact List.mem_takeWhile_imp early
        · rw [List.eq_of_mem_replicate zero]
          rfl
      have length : (((after.takeWhile Char.isDigit) ++ List.replicate 9 '0').take 9).length = 9 := by
        simp
      simpa [length] using foldl_digits_lt digits 0
  · simp only [Option.some.injEq, Prod.mk.injEq] at read
    omega

/-- Offsets are whole minutes. -/
theorem takeOffset_emod {sep : List Char → Option (List Char)} {offset : Int}
    {cs rest : List Char} (read : takeOffset sep cs = some (offset, rest)) : offset % 60 = 0 := by
  unfold takeOffset at read
  split at read
  · simp only [Option.some.injEq, Prod.mk.injEq] at read
    omega
  · simp only [Option.some.injEq, Prod.mk.injEq] at read
    omega
  · -- a sign, hours and minutes: the offset is their seconds, with the sign
    simp only [Option.bind_eq_bind] at read
    have signed : ∀ (negative : Prop) [Decidable negative] (h m : Nat),
        (if negative then -((h : Int) * 3600 + m * 60) else h * 3600 + m * 60) % 60 = 0 := by
      intro negative _ h m
      split <;> omega
    split at read <;> (try split at read) <;>
      simp only [Option.bind_some, Option.bind_none, reduceCtorEq, Option.bind_eq_some_iff,
        pure, Option.some.injEq, Prod.mk.injEq] at read
    all_goals
      obtain ⟨⟨h, _⟩, _, _, _, ⟨m, _⟩, _, _, _, same, _⟩ := read
      rw [← same]
      exact signed _ h m
  · cases read

/-- Fields that strict reading accepts name a valid instant: a four-digit year moved by
an offset of less than a day stays far inside the years of date-time values. -/
theorem ofFields?_valid {year : Int} {month day hour minute second nano : Nat} {offset : Int}
    (yearFrom : 0 ≤ year) (yearTo : year ≤ 9999) (nano_lt : nano < 1000000000)
    (wholeMinutes : offset % 60 = 0) (offset_lt : offset.natAbs < 86400)
    (read : ofFields? year month day hour minute second nano offset = some t) : t.Valid := by
  unfold ofFields? at read
  dsimp only at read
  split at read
  · rename_i accepted
    simp only [Bool.and_eq_true, decide_eq_true_eq, CivilDate.isValid] at accepted
    obtain ⟨⟨⟨⟨⟨⟨_, monthTo⟩, _⟩, dayTo⟩, hour_lt⟩, minute_lt⟩, second_le⟩ := accepted
    have monthLe := monthLength_le year month
    have daysNear := @CivilDate.toDays_bounds ⟨year, month, day⟩ yearFrom yearTo monthTo
      (by simp only at dayTo ⊢; omega)
    cases read
    simp only [ofLocal]
    generalize CivilDate.toDays ⟨year, month, day⟩ = d at daysNear
    -- a leap second is read as the 59th second with a billion nanoseconds more
    by_cases sixty : second = 60
    · have yearNear := CivilDate.year_ofDays_bounds
        ((d * 86400 + hour * 3600 + minute * 60 + ((59 : Nat) : Int) - offset) / 86400)
      simp only [sixty, beq_self_eq_true, if_true]
      refine ⟨?_, ?_, ?_, ?_, ?_⟩ <;> simp only [date] <;> (try intro) <;> omega
    · have yearNear := CivilDate.year_ofDays_bounds
        ((d * 86400 + hour * 3600 + minute * 60 + second - offset) / 86400)
      have notSixty : (second == 60) = false := by simpa using sixty
      simp only [notSixty, Bool.false_eq_true, if_false]
      refine ⟨?_, ?_, ?_, ?_, ?_⟩ <;> simp only [date] <;> (try intro) <;> omega
  · cases read

/-- Strict reading gives only valid instants. -/
theorem parseStrict?_valid {text : String} (read : parseStrict? text = some t) : t.Valid := by
  simp only [parseStrict?, bind_eq_some_iff] at read
  obtain ⟨⟨year, _⟩, yearRead, _, _, _, _, _, _, ⟨_, afterDay⟩, _, read⟩ := read
  -- past the separator between date and time, the fields read in turn
  split at read
  · split at read
    · simp only [some_bind, bind_eq_some_iff, guard] at read
      obtain ⟨_, _, _, _, _, _, _, _, _, _, ⟨nano, _⟩, fractionRead, ⟨offset, _⟩, offsetRead,
        _, offsetChecked, _, _, fields⟩ := read
      have offset_lt : offset.natAbs < 86400 := by
        by_contra large
        simp [large, failure] at offsetChecked
      exact ofFields?_valid (by omega) (by have := takeDigits_lt yearRead; omega)
        (takeFraction_lt fractionRead) (takeOffset_emod offsetRead) offset_lt fields
    · simp at read
  · simp at read

end ChartCatalog.Instant
