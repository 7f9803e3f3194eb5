import SpamVerdict.Http.Percent
import SpamVerdict.Idn.Domain
import SpamVerdict.Ip.Address
set_option autoImplicit false

/-!
# Hosts of addresses on the web (SPEC_FULL §13)

A host is an address in brackets, a number with dots, or a domain.  In the known schemes a domain
is percent-decoded, put into lower case and written in ASCII, and one whose last label is a number
must be an IPv4 address, in decimal, octal or hexadecimal parts.  In other schemes a host is a text
without certain marks.

The addresses of the two services are settings (SPEC_FULL §13), so an operator may write any host;
one that cannot be read is refused before anything is asked.
-/

namespace SpamVerdict.Http

/-- Why a text is not a web address. -/
inductive UrlFault where
  | emptyHost
  | domainName
  | port
  | ipv4
  | ipv6
  | hostCharacter
  | relative
  deriving DecidableEq, Repr

/-- The text of a fault. -/
def UrlFault.message : UrlFault → String
  | emptyHost => "empty host"
  | domainName => "invalid international domain name"
  | port => "invalid port number"
  | ipv4 => "invalid IPv4 address"
  | ipv6 => "invalid IPv6 address"
  | hostCharacter => "invalid domain character"
  | relative => "relative URL without a base"

/-! ## Numbers with dots -/

/-- A part of a dotted number: hexadecimal behind `0x`, octal behind `0`, or else decimal. -/
def numberPart? (cs : List Char) : Option Nat :=
  let read (base : Nat) (ds : List Char) : Option Nat :=
    ds.foldlM (fun n c => (Text.hexValue? c).bind fun d =>
      if d < base then some (base * n + d) else none) 0
  match cs with
  | [] => none
  | '0' :: x :: ds => if x = 'x' ∨ x = 'X' then read 16 ds else read 8 (x :: ds)
  | ds => read 10 ds

/-- Whether the last label of a domain is a number, so that the domain is meant as an address. -/
def endsInNumber (domain : List Char) : Bool :=
  let pieces := Text.split (· == '.') domain
  let pieces := if pieces.getLast? = some [] && 1 < pieces.length then pieces.dropLast else pieces
  match pieces.getLast? with
  | none => false
  | some last =>
    (!last.isEmpty && last.all Char.isDigit) ||
      (match last with
        | '0' :: x :: ds => (x == 'x' || x == 'X') && ds.all Text.isHexDigit
        | _ => false)

/-- The IPv4 address that a dotted number stands for: up to four parts, the last of which fills
all octets that are left. -/
def dottedNumber? (domain : List Char) : Option Ip.V4 := do
  let pieces := Text.split (· == '.') domain
  let pieces := if pieces.getLast? = some [] && 1 < pieces.length then pieces.dropLast else pieces
  if 4 < pieces.length then none
  let numbers ← pieces.mapM numberPart?
  let last ← numbers.getLast?
  let front := numbers.dropLast
  if front.any (255 < ·) || Nat.pow 256 (4 - front.length) ≤ last then none
  let n := front.zipIdx.foldl (fun n (x, i) => n + x * Nat.pow 256 (3 - i)) last
  return ⟨UInt8.ofNat (n / 16777216), UInt8.ofNat (n / 65536), UInt8.ofNat (n / 256),
    UInt8.ofNat n⟩

/-! ## Domains -/

/-- A character that no domain may have. -/
def isForbidden (c : Char) : Bool :=
  c.toNat ≤ 0x20 || c.toNat = 0x7F || "%#/:<>?@[]^|\x5c".toList.contains c

/-- The rules for the names of hosts on the web: those of today, with all ASCII characters that
mean nothing else in an address. -/
def webNames : Idn.Rules where
  image? := Idn.image?
  isLasting := Idn.isLasting
  isRefused := isForbidden
  checksJoiners := true
  codesAscii := false

/-- The ASCII form of a domain. -/
def asciiDomain? (cs : List Char) : Option (List Char) :=
  (webNames.labels? cs).map fun labels => Ip.joinWith '.' (labels.map Idn.writtenLabel)

/-! ## Hosts -/

/-- The text of an IPv6 host: groups only, also for an IPv4-mapped address. -/
def ipv6Text (x : Ip.V6) : List Char :=
  let (start, length) := Ip.longestZeros x.groups
  if 1 < length then
    Ip.groupsText (x.groups.take start) ++ [':', ':'] ++
      Ip.groupsText (x.groups.drop (start + length))
  else Ip.groupsText x.groups

/-- A host in brackets. -/
def bracketHost (cs : List Char) : Except UrlFault (List Char) :=
  if cs.getLast? = some ']' then
    match Ip.V6.parse? cs.dropLast with
    | some x => .ok ('[' :: ipv6Text x ++ [']'])
    | none => .error .ipv6
  else .error .ipv6

/-- The host of a known scheme, as it is written. -/
def knownHost : List Char → Except UrlFault (List Char)
  | '[' :: cs => bracketHost cs
  | cs =>
    match asciiDomain? (Text.Utf8.decodeLossy (percentDecode cs)) with
    | none => .error .domainName
    | some [] => .error .emptyHost
    | some domain =>
      if endsInNumber domain then
        match dottedNumber? domain with
        | some x => .ok x.text
        | none => .error .ipv4
      else .ok domain

/-- The host of another scheme, as it is written. -/
def opaqueHost : List Char → Except UrlFault (List Char)
  | '[' :: cs => bracketHost cs
  | cs =>
    if cs.any ("\x00\t\n\r #/:<>?@[]^|\x5c".toList.contains ·) then .error .hostCharacter
    else .ok (percentEncode (fun _ => false) cs)

end SpamVerdict.Http
