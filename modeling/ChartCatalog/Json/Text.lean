import ChartCatalog.Json.Value
import ChartCatalog.Text.Hex

/-!
# JSON text

Reading and writing JSON text (RFC 8259).

Reading accepts one value surrounded by blanks (space, tab, line feed, carriage return).
A number with a fraction or an exponent, or an integer outside the 64-bit range, is read
as a decimal. Within an object a later member replaces an earlier one of the same key.

Writing is compact: no blank between tokens, members in key order. A string escapes the
quote, the backslash and the control characters below U+0020 (`\n`, `\t` and their kin
by name, the rest as `\u00XX` with lowercase digits) and writes all else as it is. A
decimal is written with its significant digits: positionally when its decimal point
falls within the first sixteen places, with `.0` after a whole number, and otherwise
in scientific notation `d.ddde±x`.
-/

set_option autoImplicit false

namespace ChartCatalog.Json

/-! ## Reading -/

/-- Blanks between JSON tokens. -/
def isSpace (c : Char) : Bool := c == ' ' || c == '\t' || c == '\n' || c == '\r'

/-- The value of a hexadecimal digit. -/
def hexValue? (c : Char) : Option Nat :=
  if '0' ≤ c && c ≤ '9' then some (c.toNat - 48)
  else if 'a' ≤ c && c ≤ 'f' then some (c.toNat - 87)
  else if 'A' ≤ c && c ≤ 'F' then some (c.toNat - 55)
  else none

/-- Four hexadecimal digits as a code unit. -/
def hex4? (a b c d : Char) : Option Nat := do
  pure ((← hexValue? a) * 4096 + (← hexValue? b) * 256 + (← hexValue? c) * 16 + (← hexValue? d))

/-- The characters of a string body up to its closing quote, after those already read. -/
def readString (read : Array Char) : List Char → Option (String × List Char)
  | [] => none
  | '"' :: rest => some (String.ofList read.toList, rest)
  | '\\' :: 'u' :: a :: b :: c :: d :: rest =>
    match hex4? a b c d with
    | none => none
    | some unit =>
      if 0xD800 ≤ unit && unit < 0xDC00 then
        match rest with
        | '\\' :: 'u' :: a' :: b' :: c' :: d' :: after =>
          match hex4? a' b' c' d' with
          | some low =>
            if 0xDC00 ≤ low && low < 0xE000 then
              readString (read.push (Char.ofNat (0x10000 + (unit - 0xD800) * 1024 +
                (low - 0xDC00)))) after
            else none
          | none => none
        | _ => none
      else if 0xDC00 ≤ unit && unit < 0xE000 then none
      else readString (read.push (Char.ofNat unit)) rest
  | '\\' :: c :: rest =>
    match c with
    | '"' => readString (read.push '"') rest
    | '\\' => readString (read.push '\\') rest
    | '/' => readString (read.push '/') rest
    | 'b' => readString (read.push (Char.ofNat 8)) rest
    | 'f' => readString (read.push (Char.ofNat 12)) rest
    | 'n' => readString (read.push '\n') rest
    | 'r' => readString (read.push '\r') rest
    | 't' => readString (read.push '\t') rest
    | _ => none
  | c :: rest => if c.toNat < 0x20 then none else readString (read.push c) rest

/-- Decimal digits at the front, as a list. -/
def digitsPrefix (cs : List Char) : List Char × List Char :=
  (cs.takeWhile Char.isDigit, cs.dropWhile Char.isDigit)

/-- The value of a list of decimal digits. -/
def digitsValue (ds : List Char) : Nat := ds.foldl (fun n d => 10 * n + (d.toNat - 48)) 0

/-- Reads a number: an optional minus, an integer part without leading zeros, an optional
fraction and an optional exponent. -/
def readNumber (cs : List Char) : Option (Number × List Char) := do
  let (negative, cs) := match cs with
    | '-' :: rest => (true, rest)
    | _ => (false, cs)
  let (whole, cs) := digitsPrefix cs
  guard (!whole.isEmpty)
  guard (whole.length == 1 || whole.head? != some '0')
  let (fraction, hasFraction, cs) ← match cs with
    | '.' :: rest =>
      let (fraction, rest) := digitsPrefix rest
      if fraction.isEmpty then none else some (fraction, true, rest)
    | _ => some ([], false, cs)
  let (exponent, hasExponent, cs) ← match cs with
    | c :: rest =>
      if c == 'e' || c == 'E' then
        let (sign, rest) := match rest with
          | '+' :: r => (1, r)
          | '-' :: r => (-1, r)
          | r => (1, r)
        let (ds, rest) := digitsPrefix rest
        if ds.isEmpty then none else some ((sign : Int) * digitsValue ds, true, rest)
      else some (0, false, cs)
    | [] => some (0, false, cs)
  let mantissa : Int := digitsValue (whole ++ fraction)
  let mantissa := if negative then -mantissa else mantissa
  if hasFraction || hasExponent then
    pure (.decimal mantissa (exponent - fraction.length), cs)
  else if mantissa < -(Int.pow 2 63) || mantissa ≥ Int.pow 2 64 then
    pure (.decimal mantissa 0, cs)
  else
    pure (.int mantissa, cs)

mutual

/-- Reads one value after optional blanks; `fuel` bounds the nesting and the number of
items, and the length of the text is always enough. -/
def readValue : Nat → List Char → Option (Json × List Char)
  | 0, _ => none
  | fuel + 1, cs =>
    match cs.dropWhile isSpace with
    | 'n' :: 'u' :: 'l' :: 'l' :: rest => some (.null, rest)
    | 't' :: 'r' :: 'u' :: 'e' :: rest => some (.bool true, rest)
    | 'f' :: 'a' :: 'l' :: 's' :: 'e' :: rest => some (.bool false, rest)
    | '"' :: rest => (readString #[] rest).map fun (s, r) => (.str s, r)
    | '[' :: rest =>
      match rest.dropWhile isSpace with
      | ']' :: after => some (.arr [], after)
      | _ => readItems fuel #[] rest
    | '{' :: rest =>
      match rest.dropWhile isSpace with
      | '}' :: after => some (.obj [], after)
      | _ => readMembers fuel [] rest
    | other => (readNumber other).map fun (n, r) => (.num n, r)

/-- Reads array items after the opening bracket or a comma. -/
def readItems : Nat → Array Json → List Char → Option (Json × List Char)
  | 0, _, _ => none
  | fuel + 1, items, cs =>
    match readValue fuel cs with
    | none => none
    | some (item, rest) =>
      match rest.dropWhile isSpace with
      | ',' :: more => readItems fuel (items.push item) more
      | ']' :: more => some (.arr (items.push item).toList, more)
      | _ => none

/-- Reads object members after the opening brace or a comma. -/
def readMembers : Nat → List (String × Json) → List Char → Option (Json × List Char)
  | 0, _, _ => none
  | fuel + 1, fields, cs =>
    match cs.dropWhile isSpace with
    | '"' :: rest =>
      match readString #[] rest with
      | none => none
      | some (key, rest) =>
        match rest.dropWhile isSpace with
        | ':' :: rest =>
          match readValue fuel rest with
          | none => none
          | some (value, rest) =>
            let fields := insertField key value fields
            match rest.dropWhile isSpace with
            | ',' :: more => readMembers fuel fields more
            | '}' :: more => some (.obj fields, more)
            | _ => none
        | _ => none
    | _ => none

end

/-- Reads a whole text as one JSON value. -/
def parse? (text : String) : Option Json :=
  let cs := text.toList
  match readValue (cs.length + 1) cs with
  | some (value, rest) => if rest.all isSpace then some value else none
  | none => none

/-! ## Writing -/

/-- A character as a JSON string writes it: the quote, the backslash and the control
characters escaped, all else as it is. -/
def escapeChar (c : Char) : List Char :=
  match c with
  | '"' => ['\\', '"']
  | '\\' => ['\\', '\\']
  | '\n' => ['\\', 'n']
  | '\r' => ['\\', 'r']
  | '\t' => ['\\', 't']
  | c =>
    if c.toNat == 8 then ['\\', 'b']
    else if c.toNat == 12 then ['\\', 'f']
    else if c.toNat < 0x20 then
      ['\\', 'u', '0', '0', Text.hexDigit (c.toNat / 16), Text.hexDigit (c.toNat % 16)]
    else [c]

/-- A string written between quotes with the escapes of compact JSON. -/
def quote (s : String) : String :=
  String.ofList ('"' :: (s.toList.flatMap escapeChar ++ ['"']))

/-- The decimal digits of a natural number. -/
def natDigits (n : Nat) : List Char := (Nat.toDigits 10 n)

/-- The text of a decimal with significant digits `ds` and the decimal point `point`
places after the first digit's position (the value is `0.ds · 10 ^ point`). -/
def decimalText (ds : List Char) (point : Int) : String :=
  let n : Int := ds.length
  let zeros (k : Nat) : List Char := List.replicate k '0'
  if n ≤ point && point ≤ 16 then
    String.ofList (ds ++ zeros (point - n).toNat ++ ['.', '0'])
  else if 0 < point && point ≤ 16 then
    String.ofList (ds.take point.toNat ++ '.' :: ds.drop point.toNat)
  else if -5 < point && point ≤ 0 then
    String.ofList ('0' :: '.' :: zeros (-point).toNat ++ ds)
  else
    let exponent := point - 1
    let expText := (if exponent < 0 then "-" else "") ++ String.ofList (natDigits exponent.natAbs)
    match ds with
    | [d] => String.ofList [d] ++ "e" ++ expText
    | d :: rest => String.ofList (d :: '.' :: rest) ++ "e" ++ expText
    | [] => "0.0"

/-- The text of a number. -/
def numberText : Number → String
  | .int value =>
    (if value < 0 then "-" else "") ++ String.ofList (natDigits value.natAbs)
  | .decimal mantissa exponent =>
    let (m, e) := Number.normalize mantissa exponent (mantissa.natAbs.log2 + 1)
    if m == 0 then (if mantissa < 0 then "-0.0" else "0.0")
    else
      let ds := natDigits m.natAbs
      (if m < 0 then "-" else "") ++ decimalText ds (e + ds.length)

/-- The compact text of a value. -/
def render : Json → String
  | .null => "null"
  | .bool true => "true"
  | .bool false => "false"
  | .num n => numberText n
  | .str s => quote s
  | .arr items => "[" ++ ",".intercalate (renderItems items) ++ "]"
  | .obj fields => "\x7b" ++ ",".intercalate (renderFields fields) ++ "\x7d"
where
  /-- The texts of array items. -/
  renderItems : List Json → List String
    | [] => []
    | item :: rest => render item :: renderItems rest
  /-- The texts of object members. -/
  renderFields : List (String × Json) → List String
    | [] => []
    | (key, value) :: rest => (quote key ++ ":" ++ render value) :: renderFields rest

end ChartCatalog.Json
