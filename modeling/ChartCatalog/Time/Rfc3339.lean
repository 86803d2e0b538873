import ChartCatalog.Time.Instant

/-!
# Timestamps as text

Three forms of the RFC 3339 timestamp.

*Strict reading* (`Instant.parseStrict?`) takes a four-digit year, two-digit month, day,
hour, minute and second, a separator `T`, `t` or space, an optional fraction of at least
one digit, and an offset `Z`, `z` or `±hh:mm` with hours below 24. The date must exist,
the hour is below 24, the minute below 60 and the second at most 60. Digits past the
ninth of a fraction are dropped.

*Relaxed reading* (`Instant.parse?`) also takes a signed year of any length, fields of
one digit, blanks between the parts, `UTC` for the offset, and an offset without its
colon.

*Writing* gives the year in four digits when it lies in 0–9999 and otherwise with its
sign, then the fewest of 0, 3, 6 or 9 fraction digits that keep the nanoseconds, and
the offset as `Z` (`Instant.text`) or `+00:00` (`Instant.textWithOffset`).
-/

set_option autoImplicit false

namespace ChartCatalog.Instant

/-- Exactly `n` ASCII digits at the front, as a number. -/
def takeDigits (n : Nat) (cs : List Char) : Option (Nat × List Char) :=
  let ds := cs.take n
  if ds.length == n && ds.all Char.isDigit then
    some (ds.foldl (fun v d => 10 * v + (d.toNat - 48)) 0, cs.drop n)
  else none

/-- One to `n` ASCII digits at the front, as a number. -/
def takeUpTo (n : Nat) (cs : List Char) : Option (Nat × List Char) :=
  let ds := (cs.takeWhile Char.isDigit).take n
  if ds.isEmpty then none
  else some (ds.foldl (fun v d => 10 * v + (d.toNat - 48)) 0, cs.drop ds.length)

/-- The nanoseconds of a fraction's digits: the first nine count. -/
def fractionNanos (ds : List Char) : Nat :=
  let nine := (ds ++ List.replicate 9 '0').take 9
  nine.foldl (fun v d => 10 * v + (d.toNat - 48)) 0

/-- An optional fraction after the seconds: a point and at least one digit. -/
def takeFraction (cs : List Char) : Option (Nat × List Char) :=
  match cs with
  | '.' :: rest =>
    let ds := rest.takeWhile Char.isDigit
    if ds.isEmpty then none else some (fractionNanos ds, rest.drop ds.length)
  | _ => some (0, cs)

/-- A literal character at the front. -/
def expect (c : Char) (cs : List Char) : Option (List Char) :=
  match cs with
  | d :: rest => if c == d then some rest else none
  | [] => none

/-- The instant of parsed fields, when the fields name a real local time. -/
def ofFields? (year : Int) (month day hour minute second nano : Nat) (offset : Int) :
    Option Instant :=
  let date : CivilDate := ⟨year, month, day⟩
  if date.isValid && hour < 24 && minute < 60 && second ≤ 60 then
    some (ofLocal date hour minute second nano offset)
  else none

/-- Whether a character is one of the blanks that relaxed reading skips. -/
def isSkippable (c : Char) : Bool := c == ' ' || c == '\t' || c == '\n' || c == '\r'

/-- An offset: `Z`, `z`, or a sign, two hour digits, a separator and two minute digits,
where `sep` consumes the separator. The minus sign may also be U+2212. -/
def takeOffset (sep : List Char → Option (List Char)) (cs : List Char) : Option (Int × List Char) :=
  match cs with
  | 'Z' :: rest | 'z' :: rest => some (0, rest)
  | c :: rest => do
    let negative ← if c == '+' then some false
      else if c == '-' || c.toNat == 0x2212 then some true else none
    let (h, rest) ← takeDigits 2 rest
    let rest ← sep rest
    let (m, rest) ← takeDigits 2 rest
    guard (m < 60)
    let seconds : Int := h * 3600 + m * 60
    pure (if negative then -seconds else seconds, rest)
  | [] => none

/-- Reads a timestamp in the strict form. -/
def parseStrict? (text : String) : Option Instant := do
  let cs := text.toList
  let (year, cs) ← takeDigits 4 cs
  let cs ← expect '-' cs
  let (month, cs) ← takeDigits 2 cs
  let cs ← expect '-' cs
  let (day, cs) ← takeDigits 2 cs
  let cs ← match cs with
    | c :: rest => if c == 'T' || c == 't' || c == ' ' then some rest else none
    | [] => none
  let (hour, cs) ← takeDigits 2 cs
  let cs ← expect ':' cs
  let (minute, cs) ← takeDigits 2 cs
  let cs ← expect ':' cs
  let (second, cs) ← takeDigits 2 cs
  let (nano, cs) ← takeFraction cs
  let (offset, cs) ← takeOffset (expect ':') cs
  guard (offset.natAbs < 86400)
  guard cs.isEmpty
  ofFields? year month day hour minute second nano offset

/-- A year in relaxed form: a sign and any number of digits, or up to four digits. -/
def takeYear (cs : List Char) : Option (Int × List Char) :=
  match cs with
  | '-' :: rest => (takeUpTo 1000 rest).map fun (v, r) => (-(v : Int), r)
  | '+' :: rest => (takeUpTo 1000 rest).map fun (v, r) => ((v : Int), r)
  | _ => (takeUpTo 4 cs).map fun (v, r) => ((v : Int), r)

/-- Reads a timestamp in the relaxed form. -/
def parse? (text : String) : Option Instant := do
  let skip (cs : List Char) : List Char := cs.dropWhile isSkippable
  let cs := text.toList
  let (year, cs) ← takeYear (skip cs)
  let cs ← expect '-' (skip cs)
  let (month, cs) ← takeUpTo 2 (skip cs)
  let cs ← expect '-' (skip cs)
  let (day, cs) ← takeUpTo 2 (skip cs)
  let cs ← match cs with
    | c :: rest => if c == 'T' || c == 't' || c == ' ' then some rest else none
    | [] => none
  let (hour, cs) ← takeUpTo 2 (skip cs)
  let cs ← expect ':' (skip cs)
  let (minute, cs) ← takeUpTo 2 (skip cs)
  let cs ← expect ':' (skip cs)
  let (second, cs) ← takeUpTo 2 (skip cs)
  let (nano, cs) ← takeFraction cs
  let cs := skip cs
  let (offset, cs) ← match cs with
    | u :: t :: c :: rest =>
      if [u, t, c].map (fun x => if 'a' ≤ x && x ≤ 'z' then Char.ofNat (x.toNat - 32) else x) ==
          ['U', 'T', 'C'] then some (0, rest)
      else takeOffset (fun r => some (r.dropWhile fun x => x == ':' || isSkippable x)) cs
    | _ => takeOffset (fun r => some (r.dropWhile fun x => x == ':' || isSkippable x)) cs
  guard (offset.natAbs < 86400)
  guard (skip cs).isEmpty
  ofFields? year month day hour minute second nano offset

/-- A number written with at least `width` digits. -/
def padded (width : Nat) (n : Nat) : String :=
  let ds := Nat.toDigits 10 n
  String.ofList (List.replicate (width - ds.length) '0' ++ ds)

/-- The fraction of a second: none, or 3, 6 or 9 digits, the fewest that keep it. -/
def fractionText (nano : Nat) : String :=
  if nano == 0 then ""
  else if nano % 1000000 == 0 then "." ++ padded 3 (nano / 1000000)
  else if nano % 1000 == 0 then "." ++ padded 6 (nano / 1000)
  else "." ++ padded 9 nano

/-- The date and time of an instant, without the offset. -/
def localText (t : Instant) : String :=
  let date := t.date
  let yearText :=
    if 0 ≤ date.year && date.year ≤ 9999 then padded 4 date.year.toNat
    else (if date.year < 0 then "-" else "+") ++ padded 4 date.year.natAbs
  let leap := t.nano ≥ 1000000000
  let nano := if leap then t.nano - 1000000000 else t.nano
  let sec := t.second % 60 + (if leap then 1 else 0)
  yearText ++ "-" ++ padded 2 date.month ++ "-" ++ padded 2 date.day ++ "T" ++
    padded 2 (t.second / 3600) ++ ":" ++ padded 2 (t.second / 60 % 60) ++ ":" ++ padded 2 sec ++
    fractionText nano

/-- The timestamp text ending in `Z`. -/
def text (t : Instant) : String := localText t ++ "Z"

/-- The timestamp text ending in `+00:00`. -/
def textWithOffset (t : Instant) : String := localText t ++ "+00:00"

end ChartCatalog.Instant
