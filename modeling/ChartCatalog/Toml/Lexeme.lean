import ChartCatalog.Toml.Value

/-!
# TOML lexemes

The pieces of a TOML 1.0 document that hold no other values: blanks and comments, keys,
strings, numbers, booleans and date-times. Each reader takes the characters left to
read and gives what it read with the characters after it, or `none` when the text is
not valid there.

* Blanks are spaces and tabs; a line ends with a line feed, or a carriage return and a
  line feed. A comment runs from `#` to the end of its line and holds no control
  character but the tab.
* A key is bare (ASCII letters, digits, `-`, `_`) or a one-line string; dotted keys are
  keys joined by `.`, with blanks allowed around the dots.
* Basic strings take the escapes `\b \t \n \f \r \" \\ \uXXXX \UXXXXXXXX`; literal
  strings take none. In a multi-line string a line feed right after the opening quotes
  is dropped, and up to two quotes may stand right before the closing three; in a
  multi-line basic string a backslash at the end of a line drops the line break and the
  blanks and line breaks after it.
* Integers are decimal with an optional sign, or hexadecimal, octal or binary after
  `0x`, `0o`, `0b`; a decimal may not start with `0` unless it is `0`, and an underscore
  must stand between two digits. They must fit in 64 signed bits.
* Floats have a fraction, an exponent or both, or are `inf` or `nan` with an optional sign.
* Date-times are a date, a time, or both separated by `T`, `t` or a space, with an
  optional offset after a date and time.
-/

set_option autoImplicit false

namespace ChartCatalog.Toml

/-! ## Blanks, line ends and comments -/

/-- Whether a character is a blank: a space or a tab. -/
def isBlank (c : Char) : Bool := c == ' ' || c == '\t'

/-- The characters after any blanks. -/
def skipBlanks (cs : List Char) : List Char := cs.dropWhile isBlank

/-- The characters after a line end at the front, if there is one. -/
def lineEnd? : List Char → Option (List Char)
  | '\n' :: rest => some rest
  | '\r' :: '\n' :: rest => some rest
  | _ => none

/-- Whether a character may stand in a comment. -/
def isCommentChar (c : Char) : Bool := c == '\t' || (c.toNat ≥ 0x20 && c.toNat != 0x7F)

/-- The characters after a comment at the front, up to its line end; the characters
unchanged when no comment starts there. -/
def skipComment : List Char → Option (List Char)
  | '#' :: rest =>
    let after := rest.dropWhile isCommentChar
    match after with
    | [] => some []
    | '\n' :: _ => some after
    | '\r' :: '\n' :: _ => some after
    | _ => none
  | cs => some cs

/-- The characters after blanks, comments and line ends, as arrays allow between items. -/
def skipSpace : Nat → List Char → Option (List Char)
  | 0, cs => some cs
  | fuel + 1, cs =>
    let cs := skipBlanks cs
    match cs with
    | '#' :: _ => do
      let after ← skipComment cs
      match lineEnd? after with
      | some rest => skipSpace fuel rest
      | none => some after
    | _ =>
      match lineEnd? cs with
      | some rest => skipSpace fuel rest
      | none => some cs

/-! ## Strings -/

/-- The value of a hexadecimal digit. -/
def hexDigit? (c : Char) : Option Nat :=
  if '0' ≤ c && c ≤ '9' then some (c.toNat - 48)
  else if 'a' ≤ c && c ≤ 'f' then some (c.toNat - 87)
  else if 'A' ≤ c && c ≤ 'F' then some (c.toNat - 55)
  else none

/-- The number a run of hexadecimal digits writes. -/
def hexValue? (ds : List Char) : Option Nat :=
  ds.foldlM (fun acc d => (hexDigit? d).map (acc * 16 + ·)) 0

/-- The character of a code point that is a Unicode scalar value. -/
def scalar? (n : Nat) : Option Char :=
  if n < 0xD800 || (0xDFFF < n && n ≤ 0x10FFFF) then some (Char.ofNat n) else none

/-- The character an escape after a backslash stands for, and the characters after it. -/
def escape : List Char → Option (Char × List Char)
  | '"' :: rest => some ('"', rest)
  | '\\' :: rest => some ('\\', rest)
  | 'b' :: rest => some (Char.ofNat 8, rest)
  | 'f' :: rest => some (Char.ofNat 12, rest)
  | 'n' :: rest => some ('\n', rest)
  | 'r' :: rest => some ('\r', rest)
  | 't' :: rest => some ('\t', rest)
  | 'u' :: rest => do
    let c ← scalar? (← hexValue? (rest.take 4))
    if (rest.take 4).length == 4 then some (c, rest.drop 4) else none
  | 'U' :: rest => do
    let c ← scalar? (← hexValue? (rest.take 8))
    if (rest.take 8).length == 8 then some (c, rest.drop 8) else none
  | _ => none

/-- Whether a character may stand unescaped in a basic string. -/
def isBasicChar (c : Char) : Bool :=
  let n := c.toNat
  c == '\t' || c == ' ' || c == '!' || (0x23 ≤ n && n ≤ 0x5B) || (0x5D ≤ n && n ≤ 0x7E) ||
    0x80 ≤ n

/-- Whether a character may stand in a literal string. -/
def isLiteralChar (c : Char) : Bool :=
  let n := c.toNat
  c == '\t' || (0x20 ≤ n && n ≤ 0x26) || (0x28 ≤ n && n ≤ 0x7E) || 0x80 ≤ n

/-- The rest of a one-line basic string after its opening quote; `fuel` bounds the
characters read. -/
def basicStringWithin : Nat → List Char → List Char → Option (String × List Char)
  | 0, _, _ => none
  | _ + 1, _, [] => none
  | _ + 1, acc, '"' :: rest => some (String.ofList acc.reverse, rest)
  | fuel + 1, acc, '\\' :: rest => do
    let (c, rest) ← escape rest
    basicStringWithin fuel (c :: acc) rest
  | fuel + 1, acc, c :: rest =>
    if isBasicChar c then basicStringWithin fuel (c :: acc) rest else none

/-- The rest of a one-line basic string after its opening quote. -/
def basicString (acc : List Char) (cs : List Char) : Option (String × List Char) :=
  basicStringWithin (cs.length + 1) acc cs

/-- The rest of a one-line literal string after its opening quote. -/
def literalString (acc : List Char) : List Char → Option (String × List Char)
  | [] => none
  | '\'' :: rest => some (String.ofList acc.reverse, rest)
  | c :: rest => if isLiteralChar c then literalString (c :: acc) rest else none

/-- The number of copies of a character at the front, at most `limit`. -/
def countLeading (q : Char) (limit : Nat) (cs : List Char) : Nat :=
  ((cs.take limit).takeWhile (· == q)).length

/-- The characters after a line-ending backslash's blanks and line ends. -/
def skipFold (cs : List Char) : List Char :=
  cs.dropWhile fun c => isBlank c || c == '\n' || c == '\r'

/-- The rest of a multi-line string after its opening quotes: `q` is the quote, `basic`
tells whether escapes apply, and `fuel` bounds the characters read. -/
def multiline (q : Char) (basic : Bool) : Nat → List Char → List Char → Option (String × List Char)
  | 0, _, _ => none
  | fuel + 1, acc, cs =>
    let quotes := countLeading q 5 cs
    if quotes ≥ 3 then
      some (String.ofList (List.replicate (quotes - 3) q ++ acc).reverse, cs.drop quotes)
    else if quotes > 0 then
      multiline q basic fuel (List.replicate quotes q ++ acc) (cs.drop quotes)
    else
      match lineEnd? cs with
      | some rest => multiline q basic fuel ('\n' :: acc) rest
      | none =>
        match cs with
        | [] => none
        | '\\' :: rest =>
          if !basic then
            multiline q basic fuel ('\\' :: acc) rest
          else
            match lineEnd? (skipBlanks rest) with
            | some after => multiline q basic fuel acc (skipFold after)
            | none => do
              let (c, rest) ← escape rest
              multiline q basic fuel (c :: acc) rest
        | c :: rest =>
          let allowed := if basic then isBasicChar c || c == '"' else isLiteralChar c || c == '\''
          if allowed then multiline q basic fuel (c :: acc) rest else none

/-- The characters after a line end right at the front, or all of them. -/
def dropFirstLineEnd (cs : List Char) : List Char := (lineEnd? cs).getD cs

/-- A string of any of the four kinds. -/
def string (cs : List Char) : Option (String × List Char) :=
  match cs with
  | '"' :: '"' :: '"' :: rest => multiline '"' true (rest.length + 1) [] (dropFirstLineEnd rest)
  | '"' :: rest => basicString [] rest
  | '\'' :: '\'' :: '\'' :: rest =>
    multiline '\'' false (rest.length + 1) [] (dropFirstLineEnd rest)
  | '\'' :: rest => literalString [] rest
  | _ => none

/-! ## Keys -/

/-- Whether a character may stand in a bare key. -/
def isBareKeyChar (c : Char) : Bool := c.isAlphanum || c == '-' || c == '_'

/-- One key: bare, or a one-line string. -/
def simpleKey (cs : List Char) : Option (String × List Char) :=
  match cs with
  | '"' :: rest => basicString [] rest
  | '\'' :: rest => literalString [] rest
  | _ =>
    let bare := cs.takeWhile isBareKeyChar
    if bare.isEmpty then none else some (String.ofList bare, cs.drop bare.length)

/-- A dotted key: its parts in order. -/
def dottedKey : Nat → List Char → Option ((List String) × List Char)
  | 0, _ => none
  | fuel + 1, cs => do
    let (k, rest) ← simpleKey cs
    match skipBlanks rest with
    | '.' :: more => do
      let (ks, rest) ← dottedKey fuel (skipBlanks more)
      some (k :: ks, rest)
    | _ => some ([k], rest)

/-- A key, simple or dotted. -/
def key (cs : List Char) : Option ((List String) × List Char) := dottedKey (cs.length + 1) cs

/-! ## Numbers -/

/-- Digits with single underscores between them, at least one digit: their value in a
base and the characters after them. -/
def digitsIn (base : Nat) (digit : Char → Option Nat) (cs : List Char) : Option (Nat × List Char) :=
  let rec go : List Char → Nat → Bool → Option (Nat × List Char)
    | c :: rest, acc, afterDigit =>
      match digit c with
      | some d => go rest (acc * base + d) true
      | none =>
        if c == '_' && afterDigit then
          match rest with
          | d :: _ => if (digit d).isSome then go rest acc false else none
          | [] => none
        else if afterDigit then some (acc, c :: rest) else none
    | [], acc, afterDigit => if afterDigit then some (acc, []) else none
  go cs 0 false

/-- The value of a decimal digit. -/
def decDigit? (c : Char) : Option Nat := if c.isDigit then some (c.toNat - 48) else none

/-- Decimal digits of a number part, where a leading zero stands alone. -/
def decimalPart (cs : List Char) : Option (Nat × List Char) :=
  match cs with
  | '0' :: rest =>
    match rest with
    | d :: _ => if d.isDigit || d == '_' then none else some (0, rest)
    | [] => some (0, [])
  | _ => digitsIn 10 decDigit? cs

/-- Whether an integer fits in 64 signed bits. -/
def fitsInt64 (n : Int) : Bool := -(Int.pow 2 63) ≤ n && n < Int.pow 2 63

/-- A number: an integer or a float. -/
def number (cs : List Char) : Option (Value × List Char) :=
  let (sign, body) : Int × List Char := match cs with
    | '+' :: rest => (1, rest)
    | '-' :: rest => (-1, rest)
    | _ => (1, cs)
  let signed := body.length < cs.length
  match body with
  | 'i' :: 'n' :: 'f' :: rest => some (.float (String.ofList (cs.take (cs.length - rest.length))), rest)
  | 'n' :: 'a' :: 'n' :: rest => some (.float (String.ofList (cs.take (cs.length - rest.length))), rest)
  | '0' :: 'x' :: rest =>
    if signed then none else do
      let (n, rest) ← digitsIn 16 hexDigit? rest
      if fitsInt64 n then some (.integer n, rest) else none
  | '0' :: 'o' :: rest =>
    if signed then none else do
      let (n, rest) ← digitsIn 8 (fun c => if '0' ≤ c && c ≤ '7' then some (c.toNat - 48) else none) rest
      if fitsInt64 n then some (.integer n, rest) else none
  | '0' :: 'b' :: rest =>
    if signed then none else do
      let (n, rest) ← digitsIn 2 (fun c => if c == '0' || c == '1' then some (c.toNat - 48) else none) rest
      if fitsInt64 n then some (.integer n, rest) else none
  | _ => do
    let (n, rest) ← decimalPart body
    let (hasFraction, rest) ← match rest with
      | '.' :: more => (digitsIn 10 decDigit? more).map fun (_, r) => (true, r)
      | _ => some (false, rest)
    let (hasExponent, rest) ← match rest with
      | 'e' :: more | 'E' :: more =>
        let more := match more with
          | '+' :: m | '-' :: m => m
          | m => m
        (digitsIn 10 decDigit? more).map fun (_, r) => (true, r)
      | _ => some (false, rest)
    if hasFraction || hasExponent then
      some (.float (String.ofList (cs.take (cs.length - rest.length))), rest)
    else if fitsInt64 (sign * n) then some (.integer (sign * n), rest)
    else none

/-! ## Date-times -/

/-- Exactly `count` decimal digits and their value. -/
def fixedDigits (count : Nat) (cs : List Char) : Option (Nat × List Char) :=
  let ds := cs.take count
  if ds.length == count && ds.all Char.isDigit then
    some (ds.foldl (fun acc d => acc * 10 + (d.toNat - 48)) 0, cs.drop count)
  else none

/-- Whether a year has a February 29. -/
def isLeap (year : Nat) : Bool := year % 4 == 0 && (year % 100 != 0 || year % 400 == 0)

/-- A date `YYYY-MM-DD` with a day that exists. -/
def date (cs : List Char) : Option (Unit × List Char) := do
  let (year, cs) ← fixedDigits 4 cs
  let cs ← match cs with | '-' :: r => some r | _ => none
  let (month, cs) ← fixedDigits 2 cs
  let cs ← match cs with | '-' :: r => some r | _ => none
  let (day, cs) ← fixedDigits 2 cs
  let days := if month == 2 then (if isLeap year then 29 else 28)
    else if month == 4 || month == 6 || month == 9 || month == 11 then 30 else 31
  if 1 ≤ month && month ≤ 12 && 1 ≤ day && day ≤ days then some ((), cs) else none

/-- A time `HH:MM:SS` with an optional fraction of a second. -/
def time (cs : List Char) : Option (Unit × List Char) := do
  let (hour, cs) ← fixedDigits 2 cs
  let cs ← match cs with | ':' :: r => some r | _ => none
  let (minute, cs) ← fixedDigits 2 cs
  let cs ← match cs with | ':' :: r => some r | _ => none
  let (second, cs) ← fixedDigits 2 cs
  let cs ← match cs with
    | '.' :: r =>
      let ds := r.takeWhile Char.isDigit
      if ds.isEmpty then none else some (r.drop ds.length)
    | _ => some cs
  if hour ≤ 23 && minute ≤ 59 && second ≤ 60 then some ((), cs) else none

/-- An offset: `Z`, or a sign with hours and minutes. -/
def offset (cs : List Char) : Option (List Char) :=
  match cs with
  | 'Z' :: rest | 'z' :: rest => some rest
  | '+' :: rest | '-' :: rest => do
    let (hour, rest) ← fixedDigits 2 rest
    let rest ← match rest with | ':' :: r => some r | _ => none
    let (minute, rest) ← fixedDigits 2 rest
    if hour ≤ 23 && minute ≤ 59 then some rest else none
  | _ => some cs

/-- Whether the characters start like a date-time: `DDDD-` or `DD:`. -/
def looksLikeDateTime (cs : List Char) : Bool :=
  match cs with
  | a :: b :: c :: d :: '-' :: _ => a.isDigit && b.isDigit && c.isDigit && d.isDigit
  | a :: b :: ':' :: _ => a.isDigit && b.isDigit
  | _ => false

/-- A date-time of any of the four kinds. -/
def dateTime (cs : List Char) : Option (Value × List Char) := do
  let text (rest : List Char) : Value := .datetime (String.ofList (cs.take (cs.length - rest.length)))
  match date cs with
  | some ((), rest) =>
    let timed : Option (List Char) := match rest with
      | 'T' :: more | 't' :: more => (time more).map Prod.snd
      | ' ' :: a :: b :: ':' :: more =>
        if a.isDigit && b.isDigit then (time (a :: b :: ':' :: more)).map Prod.snd else some rest
      | _ => some rest
    match rest, timed with
    | 'T' :: _, none | 't' :: _, none => none
    | _, none => none
    | _, some after =>
      if after.length == rest.length then some (text rest, rest)
      else do
        let after ← offset after
        some (text after, after)
  | none => do
    let ((), rest) ← time cs
    some (text rest, rest)

end ChartCatalog.Toml
