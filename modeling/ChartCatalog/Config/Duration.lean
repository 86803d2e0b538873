import ChartCatalog.Text.Blank
import ChartCatalog.Text.Lowercase

/-!
# Durations

A duration is written as a count of units: a decimal number and an optional unit letter,
`d` for days, `h` for hours, `m` for minutes and `s` for seconds; without a letter the
count is seconds. Letters are read in any case, and blanks around the text and around
the number are ignored.

The count is an unsigned 64-bit number: decimal digits after an optional `+`. Reading
fails with the first fault met from the left: an empty count, a character that is not a
digit, or a value past `2 ^ 64 - 1`. A duration whose seconds exceed `2 ^ 64 - 1` is
an arithmetic overflow, reported apart from the reading faults (`DurationError.overflow`).
-/

set_option autoImplicit false

namespace ChartCatalog

/-- Why a text is not an unsigned 64-bit count. -/
inductive CountError where
  | empty
  | invalidDigit
  | tooLarge
  deriving DecidableEq, Repr

/-- The standard description of a count fault. -/
def CountError.message : CountError → String
  | .empty => "cannot parse integer from empty string"
  | .invalidDigit => "invalid digit found in string"
  | .tooLarge => "number too large to fit in target type"

/-- The largest unsigned 64-bit value, plus one. -/
def wordLimit : Nat := Nat.pow 2 64

/-- Digits read from the left onto the value `acc`; the first non-digit or the first
step past the 64-bit range decides the fault. -/
def readDigits (acc : Nat) : List Char → Except CountError Nat
  | [] => .ok acc
  | c :: rest =>
    if c.isDigit then
      let next := 10 * acc + (c.toNat - 48)
      if next < wordLimit then readDigits next rest else .error .tooLarge
    else .error .invalidDigit

/-- An unsigned 64-bit count: decimal digits after an optional `+`. -/
def readCount : List Char → Except CountError Nat
  | [] => .error .empty
  | ['+'] => .error .invalidDigit
  | '+' :: rest => readDigits 0 rest
  | cs => readDigits 0 cs

/-- Why a text is not a duration. -/
inductive DurationError where
  /-- The count, as written before its blanks were cut, is not a 64-bit count. -/
  | invalidNumber (count : String) (cause : CountError)
  /-- The duration in seconds does not fit in 64 bits. -/
  | overflow
  deriving DecidableEq, Repr

/-- The text of a duration fault. -/
def DurationError.message : DurationError → String
  | .invalidNumber count cause => "Invalid duration number: " ++ count ++ ": " ++ cause.message
  | .overflow => "attempt to multiply with overflow"

namespace Duration

/-- The count text and the seconds per unit of a trimmed, lowercased duration. -/
def splitUnit (cs : List Char) : List Char × Nat :=
  match cs.reverse with
  | 'd' :: rest => (rest.reverse, 86400)
  | 'h' :: rest => (rest.reverse, 3600)
  | 'm' :: rest => (rest.reverse, 60)
  | 's' :: rest => (rest.reverse, 1)
  | _ => (cs, 1)

/-- The number of seconds a duration text stands for. -/
def parseSeconds (text : String) : Except DurationError Nat :=
  let lowered := (Text.toLower (Text.trim text)).toList
  let (count, unit) := splitUnit lowered
  match readCount (Text.trimChars count) with
  | .error cause => .error (.invalidNumber (String.ofList count) cause)
  | .ok n => if n * unit < wordLimit then .ok (n * unit) else .error .overflow

end Duration

/-- A count never reaches `2 ^ 64`. -/
theorem readDigits_lt (acc : Nat) (cs : List Char) (n : Nat) (h : acc < wordLimit)
    (hr : readDigits acc cs = .ok n) : n < wordLimit := by
  induction cs generalizing acc with
  | nil => simp [readDigits] at hr; omega
  | cons c rest ih =>
    simp only [readDigits] at hr
    split at hr
    · split at hr
      · exact ih _ (by assumption) hr
      · cases hr
    · cases hr

end ChartCatalog
