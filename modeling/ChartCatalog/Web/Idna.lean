import ChartCatalog.Web.Punycode
import ChartCatalog.Text.Lowercase

/-!
# International domain names

A domain written in Unicode is turned into its ASCII form label by label, as UTS #46
does for URLs (non-transitional processing, hyphens allowed anywhere, no length limit).

Each character is first mapped: ASCII letters and the letters of the lowercase table to
their lowercase forms, full-width ASCII to ASCII, the ideographic and half-width full
stops to `.`, and the characters that UTS #46 ignores (soft hyphen, zero-width space,
word joiner, variation selectors and the byte order mark) to nothing. A control
character, a space, the replacement character, or one of `% # / : < > ? @ [ \ ] ^ |`
makes the domain invalid. A label with a non-ASCII character is written as `xn--` and
its Punycode; a label that already starts with `xn--` must hold valid Punycode of a
label that is not all ASCII and whose characters are all valid as they stand, that is,
map to themselves.
-/

set_option autoImplicit false

namespace ChartCatalog.Web

/-- ASCII characters that a domain may not hold. -/
def isDeniedAscii (c : Char) : Bool :=
  let n := c.toNat
  n ≤ 0x20 || n == 0x7F || "%#/:<>?@[\\]^|".toList.contains c

/-- Characters that UTS #46 drops from a domain. -/
def isIgnoredInDomain (n : Nat) : Bool :=
  n == 0xAD || n == 0x34F || n == 0x200B || n == 0x2060 || n == 0xFEFF ||
    (0x180B ≤ n && n ≤ 0x180D) || (0xFE00 ≤ n && n ≤ 0xFE0F)

/-- Characters that make a domain invalid outright. -/
def isDisallowedInDomain (n : Nat) : Bool :=
  (0x80 ≤ n && n ≤ 0x9F) || n == 0xFFFD || (0xE000 ≤ n && n ≤ 0xF8FF) || n == 0xFFFE ||
    n == 0xFFFF || (0x2028 ≤ n && n ≤ 0x202E) || (0x2066 ≤ n && n ≤ 0x2069)

/-- The mapped form of one domain character, or `none` when it is not allowed. -/
def mapDomainChar (c : Char) : Option (List Char) :=
  let n := c.toNat
  if n < 0x80 then
    if isDeniedAscii c then none
    else if 'A' ≤ c && c ≤ 'Z' then some [Char.ofNat (n + 32)]
    else some [c]
  else if isIgnoredInDomain n then some []
  else if isDisallowedInDomain n then none
  else if n == 0x3002 || n == 0xFF0E || n == 0xFF61 then some ['.']
  else if 0xFF01 ≤ n && n ≤ 0xFF5E then
    let a := Char.ofNat (n - 0xFEE0)
    if isDeniedAscii a then none
    else if 'A' ≤ a && a ≤ 'Z' then some [Char.ofNat (a.toNat + 32)] else some [a]
  else if n == 0x3000 then none
  else some (Text.lowerChars [] [c])

/-- The ASCII form of one mapped label. -/
def labelToAscii (label : List Char) : Option (List Char) :=
  if label.all (·.toNat < 0x80) then
    match label with
    | 'x' :: 'n' :: '-' :: '-' :: body =>
      match Punycode.decode? body with
      | some decoded =>
        if decoded.all (·.toNat < 0x80) then none
        else if decoded.all fun c => mapDomainChar c == some [c] then some label
        else none
      | none => none
    | _ => some label
  else some ("xn--".toList ++ Punycode.encode label)

/-- The ASCII form of a domain, or `none` when UTS #46 processing fails. -/
def domainToAscii (domain : List Char) : Option (List Char) := do
  let mapped ← domain.mapM mapDomainChar
  let labels := mapped.flatten.splitOn '.'
  let ascii ← labels.mapM labelToAscii
  pure (List.intercalate ['.'] ascii)

end ChartCatalog.Web
