import ChartCatalog.Time.Instant
import Mathlib.Tactic.IntervalCases

/-!
# Day counts and civil dates

The conversion from a day count to a civil date (`CivilDate.ofDays`) and back
(`CivilDate.toDays`) are inverse: every day count names a date that exists on the
calendar (`isValid_ofDays`), and that date counts back to the same day
(`toDays_ofDays`).

Both conversions work in eras of 400 years that start on the first of March, so that a
leap day is the last day of its year. A day of an era is a century (of 36 524 days), a
four-year cycle within it (of 1 461 days), a year within the cycle and a day within the
year (`dayOfEra_split`); the last century of an era and the last year of a cycle are one
day longer. The closed formula the conversion uses for the year of the era gives exactly
that year (`yearOfEra_eq`).
-/

set_option autoImplicit false

namespace ChartCatalog.CivilDate

/-- A day of a 400-year era, split into its century `c`, its four-year cycle `d`, its year
`b` within the cycle and its day `j` within that year. Day 365 exists only in a year that
ends with a leap day: the last of a cycle, unless the cycle ends a century that is not the
last of the era. -/
theorem dayOfEra_split (doe : Int) (nonneg : 0 ≤ doe) (lt : doe < 146097) :
    ∃ c d b j : Int, 0 ≤ c ∧ c ≤ 3 ∧ 0 ≤ d ∧ d ≤ 24 ∧ 0 ≤ b ∧ b ≤ 3 ∧ 0 ≤ j ∧
      (j ≤ 364 ∨ (j = 365 ∧ b = 3 ∧ (d < 24 ∨ c = 3))) ∧
      doe = 36524 * c + 1461 * d + 365 * b + j := by
  -- the century, cycle and year are each a quotient, the last of each range taking the
  -- one extra day
  obtain ⟨c, century⟩ : ∃ c, c = min (doe / 36524) 3 := ⟨_, rfl⟩
  obtain ⟨d, cycle⟩ : ∃ d, d = min ((doe - 36524 * c) / 1461) 24 := ⟨_, rfl⟩
  obtain ⟨b, year⟩ : ∃ b, b = min ((doe - 36524 * c - 1461 * d) / 365) 3 := ⟨_, rfl⟩
  refine ⟨c, d, b, doe - 36524 * c - 1461 * d - 365 * b, ?_⟩
  omega

/-- The era's closed formula for the year of a day gives the year of its split. -/
theorem yearOfEra_eq {doe c d b j : Int} (hc : 0 ≤ c ∧ c ≤ 3) (hd : 0 ≤ d ∧ d ≤ 24)
    (hb : 0 ≤ b ∧ b ≤ 3) (hj : 0 ≤ j) (hlen : j ≤ 364 ∨ (j = 365 ∧ b = 3 ∧ (d < 24 ∨ c = 3)))
    (split : doe = 36524 * c + 1461 * d + 365 * b + j) :
    (doe - doe / 1460 + doe / 36524 - doe / 146096) / 365 = 100 * c + 4 * d + b := by
  -- the three corrections for leap days, one division at a time
  have cycles : doe / 1460 = 25 * c + d ∨ doe / 1460 = 25 * c + d + 1 := by omega
  have centuries : doe / 36524 = c ∨ (doe / 36524 = c + 1 ∧ c = 3 ∧ d = 24 ∧ b = 3 ∧ j = 365) := by
    omega
  have eras : doe / 146096 = 0 ∨ (doe / 146096 = 1 ∧ c = 3 ∧ d = 24 ∧ b = 3 ∧ j = 365) := by
    omega
  omega

/-- The date of a day count, read off the split of its day of the era: the year counted
from March is `100 c + 4 d + b` of the era, and the month and the day come from the day
`j` of that year, through the month `m` counted from March. -/
theorem ofDays_split (days : Int) : ∃ era c d b j m : Int, 0 ≤ c ∧ c ≤ 3 ∧ 0 ≤ d ∧ d ≤ 24 ∧
    0 ≤ b ∧ b ≤ 3 ∧ 0 ≤ j ∧ (j ≤ 364 ∨ (j = 365 ∧ b = 3 ∧ (d < 24 ∨ c = 3))) ∧
    days + 719468 = era * 146097 + (36524 * c + 1461 * d + 365 * b + j) ∧
    m = (5 * j + 2) / 153 ∧
    ofDays days = ⟨(100 * c + 4 * d + b) + era * 400 + (if m < 10 then 0 else 1),
      (if m < 10 then m + 3 else m - 9).toNat, (j - (153 * m + 2) / 5 + 1).toNat⟩ := by
  unfold ofDays
  dsimp only
  generalize days + 719468 = z
  have nonneg : 0 ≤ z - z / 146097 * 146097 := by omega
  have lt : z - z / 146097 * 146097 < 146097 := by omega
  have within : z = z / 146097 * 146097 + (z - z / 146097 * 146097) := by omega
  generalize z - z / 146097 * 146097 = doe at nonneg lt within ⊢
  generalize z / 146097 = era at within ⊢
  obtain ⟨c, d, b, j, c0, c3, d0, d24, b0, b3, j0, hlen, split⟩ := dayOfEra_split doe nonneg lt
  rw [yearOfEra_eq ⟨c0, c3⟩ ⟨d0, d24⟩ ⟨b0, b3⟩ j0 hlen split]
  have dayOfYear : doe - (365 * (100 * c + 4 * d + b) + (100 * c + 4 * d + b) / 4 -
      (100 * c + 4 * d + b) / 100) = j := by omega
  rw [dayOfYear]
  refine ⟨era, c, d, b, j, _, c0, c3, d0, d24, b0, b3, j0, hlen, by omega, rfl, ?_⟩
  congr 1
  split <;> split <;> omega

/-- The days before a year counted from March, `100 c + 4 d + b` of its era, by the closed
formula that counting a date back to days uses. -/
theorem daysBefore_marchYear {y era c d b : Int} (hc : 0 ≤ c ∧ c ≤ 3) (hd : 0 ≤ d ∧ d ≤ 24)
    (hb : 0 ≤ b ∧ b ≤ 3) (hy : y = 100 * c + 4 * d + b + era * 400) :
    y / 400 * 146097 + ((y - y / 400 * 400) * 365 + (y - y / 400 * 400) / 4 -
      (y - y / 400 * 400) / 100) = era * 146097 + (36524 * c + 1461 * d + 365 * b) := by
  have era_eq : y / 400 = era := by omega
  have yoe : y - era * 400 = 100 * c + 4 * d + b := by omega
  rw [era_eq, yoe]
  omega

/-- A day count names a date that counts back to it. -/
theorem toDays_ofDays (days : Int) : (ofDays days).toDays = days := by
  obtain ⟨era, c, d, b, j, m, c0, c3, d0, d24, b0, b3, j0, hlen, split, month, date⟩ :=
    ofDays_split days
  have m_range : 0 ≤ m ∧ m ≤ 11 := by omega
  have first : (153 * m + 2) / 5 ≤ j := by omega
  have before := daysBefore_marchYear (y := 100 * c + 4 * d + b + era * 400) ⟨c0, c3⟩ ⟨d0, d24⟩
    ⟨b0, b3⟩ rfl
  rw [date]
  simp only [toDays]
  by_cases spring : m < 10
  · -- March to December: the calendar year is the year counted from March
    have notWinter : ¬ (m + 3).toNat ≤ 2 := by omega
    have fromMarch : (if ((m + 3).toNat : Int) > 2 then ((m + 3).toNat : Int) - 3
        else ((m + 3).toNat : Int) + 9) = m := by rw [if_pos (by omega)]; omega
    simp only [spring, if_true, if_neg notWinter, add_zero, fromMarch,
      Int.toNat_of_nonneg (by omega : (0 : Int) ≤ j - (153 * m + 2) / 5 + 1)]
    omega
  · -- January and February belong to the year counted from the March before
    have winter : (m - 9).toNat ≤ 2 := by omega
    have fromMarch : (if ((m - 9).toNat : Int) > 2 then ((m - 9).toNat : Int) - 3
        else ((m - 9).toNat : Int) + 9) = m := by rw [if_neg (by omega)]; omega
    simp only [spring, if_false, if_pos winter, add_sub_cancel_right, fromMarch,
      Int.toNat_of_nonneg (by omega : (0 : Int) ≤ j - (153 * m + 2) / 5 + 1)]
    omega

/-- The year that holds the last day of a four-year cycle, ending it, is a leap year: the
cycle's year 3 counted from March ends in February of a year divisible by four, which is
a century year only at the end of a century, and then a leap year only at the end of the
era. -/
theorem isLeapYear_cycleEnd {era c d : Int} (hd : 0 ≤ d ∧ d ≤ 24)
    (leapDay : d < 24 ∨ c = 3) : isLeapYear (100 * c + 4 * d + 3 + era * 400 + 1) = true := by
  have four : (100 * c + 4 * d + 3 + era * 400 + 1) % 4 = 0 := by omega
  rcases leapDay with inCentury | lastCentury
  · have notCentury : (100 * c + 4 * d + 3 + era * 400 + 1) % 100 ≠ 0 := by omega
    simp [isLeapYear, four, notCentury]
  · have era' : (100 * c + 4 * d + 3 + era * 400 + 1) % 400 = 0 ∨
        (100 * c + 4 * d + 3 + era * 400 + 1) % 100 ≠ 0 := by omega
    rcases era' with divisible | notCentury
    · simp [isLeapYear, four, divisible]
    · simp [isLeapYear, four, notCentury]

/-- Every day count names a date that exists on the calendar. -/
theorem isValid_ofDays (days : Int) : (ofDays days).isValid = true := by
  obtain ⟨era, c, d, b, j, m, c0, c3, d0, d24, b0, b3, j0, hlen, _, month, date⟩ :=
    ofDays_split days
  have m_range : 0 ≤ m ∧ m ≤ 11 := by omega
  rw [date]
  simp only [isValid, Bool.and_eq_true, decide_eq_true_eq]
  -- one case per month, counted from March
  obtain ⟨m0, m11⟩ := m_range
  interval_cases m <;> simp [monthLength] <;> try omega
  -- February of the year after: its 29th is day 365 of the year counted from March
  split
  · omega
  · rename_i notLeap
    rcases hlen with short | ⟨rfl, rfl, leapDay⟩
    · omega
    · exact absurd (isLeapYear_cycleEnd ⟨d0, d24⟩ leapDay) notLeap

/-- The year of a day count lies within the era the count falls in. -/
theorem year_ofDays_bounds (days : Int) :
    400 * ((days + 719468) / 146097) ≤ (ofDays days).year ∧
      (ofDays days).year ≤ 400 * ((days + 719468) / 146097) + 400 := by
  obtain ⟨era, c, d, b, j, m, c0, c3, d0, d24, b0, b3, j0, hlen, split, _, date⟩ :=
    ofDays_split days
  have era_eq : (days + 719468) / 146097 = era := by omega
  rw [date, era_eq]
  dsimp only
  split <;> omega

/-- Dates of the years 0 to 9999 count between the era before the year 0 and the era after
the year 9999. -/
theorem toDays_bounds {date : CivilDate} (yearFrom : 0 ≤ date.year) (yearTo : date.year ≤ 9999)
    (monthTo : date.month ≤ 12) (dayTo : date.day ≤ 31) :
    -146097 - 719468 ≤ date.toDays ∧ date.toDays ≤ 26 * 146097 - 719468 := by
  unfold toDays
  dsimp only
  split <;> split <;> omega

end ChartCatalog.CivilDate
