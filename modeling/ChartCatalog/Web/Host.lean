import ChartCatalog.Web.Percent
import ChartCatalog.Web.Address
import ChartCatalog.Web.Idna

/-!
# URL hosts

A host is a domain, an IPv4 address or an IPv6 address; for schemes without special
rules it may also be an opaque text. A special scheme's host is percent-decoded, must be
UTF-8, is turned into its ASCII form, and is read as an IPv4 address when it ends in a
number. An opaque host keeps its text, percent-encoding controls and non-ASCII
characters, and may not hold a space or any of `# / : < > ? @ [ \ ] ^ |`.
Brackets enclose an IPv6 address in either kind of host.
-/

set_option autoImplicit false

namespace ChartCatalog.Web

/-- Why a text is not a URL. -/
inductive UrlError where
  | emptyHost
  | invalidDomain
  | invalidPort
  | invalidIpv4
  | invalidIpv6
  | invalidHostCharacter
  | relativeWithoutBase
  | relativeWithOpaqueBase
  deriving DecidableEq, Repr

/-- The standard description of a URL fault. -/
def UrlError.message : UrlError → String
  | .emptyHost => "empty host"
  | .invalidDomain => "invalid international domain name"
  | .invalidPort => "invalid port number"
  | .invalidIpv4 => "invalid IPv4 address"
  | .invalidIpv6 => "invalid IPv6 address"
  | .invalidHostCharacter => "invalid domain character"
  | .relativeWithoutBase => "relative URL without a base"
  | .relativeWithOpaqueBase => "relative URL with a cannot-be-a-base base"

/-- A URL host. A domain holds its ASCII form, or the text of an opaque host; the empty
domain is the empty host. -/
inductive Host where
  | domain (name : String)
  | ipv4 (value : Nat)
  | ipv6 (pieces : List Nat)
  deriving DecidableEq, Repr

/-- The text of a host as a URL writes it. -/
def Host.text : Host → String
  | .domain name => name
  | .ipv4 value => ipv4Text value
  | .ipv6 pieces => "[" ++ ipv6Text pieces ++ "]"

/-- Reads a bracketed IPv6 host. -/
def readBracketed (cs : List Char) : Except UrlError Host :=
  match cs.getLast? with
  | some ']' =>
    match parseIpv6 ((cs.drop 1).dropLast) with
    | some pieces => .ok (.ipv6 pieces)
    | none => .error .invalidIpv6
  | _ => .error .invalidIpv6

/-- Reads the host of a URL with a special scheme. -/
def readSpecialHost (cs : List Char) : Except UrlError Host :=
  if cs.head? == some '[' then readBracketed cs
  else
    match String.fromUTF8? (percentDecode (String.ofList cs)) with
    | none => .error .invalidDomain
    | some decoded =>
      match domainToAscii decoded.toList with
      | none => .error .invalidDomain
      | some ascii =>
        if ascii.isEmpty then .error .emptyHost
        else if endsInNumber ascii then
          match parseIpv4 ascii with
          | some value => .ok (.ipv4 value)
          | none => .error .invalidIpv4
        else .ok (.domain (String.ofList ascii))

/-- Characters that an opaque host may not hold. -/
def isForbiddenHostChar (c : Char) : Bool :=
  "\x00\t\n\r #/:<>?@[\\]^|".toList.contains c

/-- Reads the host of a URL whose scheme has no special rules. -/
def readOpaqueHost (cs : List Char) : Except UrlError Host :=
  if cs.head? == some '[' then readBracketed cs
  else if cs.any isForbiddenHostChar then .error .invalidHostCharacter
  else .ok (.domain (String.ofList (encodeChars .controls cs)))

end ChartCatalog.Web
