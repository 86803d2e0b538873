/-!
# Instants

A UTC instant on the proleptic Gregorian calendar: a day counted from 1970-01-01, a
second of that day, and nanoseconds. The nanoseconds may reach two seconds' worth: a
value of a billion or more marks a leap second, the sixtieth second of its minute,
which is kept as read and written back as `:60`.

Days and civil dates convert both ways by the usual era arithmetic (eras of 400 years,
146 097 days); division is floor division, so years before 1 work alike.
-/

set_option autoImplicit false

namespace ChartCatalog

/-- A UTC instant. -/
structure Instant where
  /-- Days since 1970-01-01. -/
  day : Int
  /-- Seconds since midnight, below 86 400. -/
  second : Nat
  /-- Nanoseconds; a billion or more marks a leap second. -/
  nano : Nat
  deriving DecidableEq, Repr, Inhabited

/-- A calendar date. -/
structure CivilDate where
  year : Int
  month : Nat
  day : Nat
  deriving DecidableEq, Repr

namespace CivilDate

/-- Whether a year has a 29th of February. -/
def isLeapYear (year : Int) : Bool := year % 4 == 0 && (year % 100 != 0 || year % 400 == 0)

/-- The number of days of a month. -/
def monthLength (year : Int) (month : Nat) : Nat :=
  match month with
  | 2 => if isLeapYear year then 29 else 28
  | 4 | 6 | 9 | 11 => 30
  | _ => 31

/-- Whether a date exists on the calendar. -/
def isValid (date : CivilDate) : Bool :=
  1 ≤ date.month && date.month ≤ 12 && 1 ≤ date.day && date.day ≤ monthLength date.year date.month

/-- Days from 1970-01-01 to a date. -/
def toDays (date : CivilDate) : Int :=
  let y : Int := if date.month ≤ 2 then date.year - 1 else date.year
  let era := y / 400
  let yoe := y - era * 400
  let m : Int := date.month
  let doy := (153 * (if m > 2 then m - 3 else m + 9) + 2) / 5 + date.day - 1
  let doe := yoe * 365 + yoe / 4 - yoe / 100 + doy
  era * 146097 + doe - 719468

/-- The date a day count stands for. -/
def ofDays (days : Int) : CivilDate :=
  let z := days + 719468
  let era := z / 146097
  let doe := z - era * 146097
  let yoe := (doe - doe / 1460 + doe / 36524 - doe / 146096) / 365
  let y := yoe + era * 400
  let doy := doe - (365 * yoe + yoe / 4 - yoe / 100)
  let mp := (5 * doy + 2) / 153
  let d := doy - (153 * mp + 2) / 5 + 1
  let m := if mp < 10 then mp + 3 else mp - 9
  { year := if m ≤ 2 then y + 1 else y, month := m.toNat, day := d.toNat }

end CivilDate

namespace Instant

/-- The instant at a local date and time (`second` may be 60 for a leap second) with a
fixed offset east of UTC in seconds. -/
def ofLocal (date : CivilDate) (hour minute second nano : Nat) (offset : Int) : Instant :=
  let leap := if second == 60 then 1000000000 else 0
  let second := if second == 60 then 59 else second
  let total : Int := date.toDays * 86400 + hour * 3600 + minute * 60 + second - offset
  { day := total / 86400, second := (total % 86400).toNat, nano := nano + leap }

/-- The calendar date of an instant. -/
def date (t : Instant) : CivilDate := CivilDate.ofDays t.day

end Instant

/-- Going from days to a date and back is the identity at the epoch. -/
theorem CivilDate.toDays_epoch : CivilDate.toDays ⟨1970, 1, 1⟩ = 0 := by decide

end ChartCatalog
