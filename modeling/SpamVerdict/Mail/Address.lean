import SpamVerdict.Ip.Public
import SpamVerdict.Text.Case
set_option autoImplicit false

/-!
# Loosely written addresses (SPEC_FULL §4.1, §14.4)

Hosts and mail headers write the address of a sender with brackets, quotes, ports and prefixes
around it.  `normalizeIp?` reads such a text; `senderDomain?` takes the domain out of the address
of a mailbox.

SPEC_FULL §4.1, step 3, lists what is stripped off an address: brackets and punctuation around it,
a prefix `IPv6:`, and a port behind an IPv4 address.  A domain is taken from an address with exactly
one `@` (§4.1), is put into lower case, and must consist of letters, digits, hyphens and full stops
then (§14.4).  In both cases nothing is raised: what cannot be read is absent.
-/

namespace SpamVerdict.Mail

/-! ## Internet addresses -/

/-- A character that decorates an address: a blank, a bracket, a quote or a mark. -/
def isDecoration (c : Char) : Bool :=
  Text.isBlank c || "[]()<>\x22\x27,;.".toList.contains c

/-- The text without decoration at both ends. -/
def undecorate (cs : List Char) : List Char := Text.trimOf isDecoration cs

/-- The text without one closing bracket at its end. -/
def dropBracket (cs : List Char) : List Char :=
  if cs.getLast? = some ']' then cs.dropLast else cs

/-- The IPv4 address in front of a port: an optional bracket, a colon and one to five digits of
any script follow it. -/
def quadWithPort? (cs : List Char) : Option Ip.V4 :=
  match Text.cut? ':' cs with
  | none => none
  | some (quad, port) =>
    if !port.isEmpty && port.length ≤ 5 && port.all Text.isDigitOfAnyScript then
      Ip.V4.parse? (dropBracket quad)
    else none

/-- The address in a loosely written text. -/
def normalizeIpChars? (cs : List Char) : Option Ip.Address :=
  let bare := undecorate cs
  match quadWithPort? bare with
  | some x => some (.v4 x)
  | none =>
    match Text.afterFold? "ipv6:".toList bare with
    | some rest => Ip.Address.ofChars? (undecorate rest)
    | none => Ip.Address.ofChars? bare

/-- The address in a loosely written text. -/
def normalizeIp? (raw : String) : Option Ip.Address := normalizeIpChars? raw.toList

/-! ## Mailboxes -/

/-- A character of a host name in lower case. -/
def isHostChar (c : Char) : Bool :=
  ('a' ≤ c && c ≤ 'z') || c.isDigit || c == '.' || c == '-'

/-- The domain of a mailbox with exactly one `@`, in lower case. -/
def senderDomain? (email : String) : Option String :=
  match Text.split (· == '@') (Text.trimOf Text.isBlank email.toList) with
  | [_, domain] =>
    let domain := Text.lowerChars (Text.trimOf Text.isBlank domain)
    if !domain.isEmpty && domain.all isHostChar then some (String.ofList domain) else none
  | _ => none

end SpamVerdict.Mail
