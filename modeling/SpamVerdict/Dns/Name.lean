import SpamVerdict.Idn.Domain
import SpamVerdict.Ip.Address
import SpamVerdict.Text.Blank
import SpamVerdict.Text.CharClass
set_option autoImplicit false

/-!
# Names to ask for (SPEC_FULL §4.2)

The text of a name is cut at its full stops into labels, in which a backslash sets off a character
by itself or by its number.  A label is written in ASCII under rules of their own: those of an
earlier edition, with letters, digits and hyphens as its only ASCII characters, and in which sharp
s, final sigma and the joiners are replaced.  Some names are set aside for special use.

SPEC_FULL §4.2 speaks of look-ups by domain and leaves the form of a domain to the adapter.  A
record may name anything as a target, so every text must either be a name or be refused.
-/

namespace SpamVerdict.Dns

/-! ## Cutting at full stops -/

/-- The value of an octal digit. -/
def octal? (c : Char) : Option Nat :=
  if '0' ≤ c ∧ c ≤ '7' then some (c.toNat - '0'.toNat) else none

/-- The character that a text behind a backslash stands for, and the rest: a numeral must begin
three octal digits, and any other character stands for itself.  A text that ends too early stands
for nothing. -/
def escaped? : List Char → Option (List Char × List Char)
  | [] => some ([], [])
  | c :: cs =>
    if Text.isNumeral c then do
      let a ← octal? c
      match cs with
      | [] => return ([], [])
      | d :: cs =>
        let b ← octal? d
        match cs with
        | [] => return ([], [])
        | e :: cs =>
          let n ← octal? e
          return ([Char.ofNat (64 * a + 8 * b + n)], cs)
    else some ([c], cs)

/-- A control character. -/
def isControl (c : Char) : Bool := c.toNat < 0x20 || (0x7F ≤ c.toNat && c.toNat < 0xA0)

/-- The characters of a name, with `none` for each full stop between labels; at most `fuel` signs
are read. -/
def signs? : Nat → List Char → Option (List (Option Char))
  | 0, cs => if cs.isEmpty then some [] else none
  | _ + 1, [] => some []
  | fuel + 1, c :: cs =>
    if c = '.' then (signs? fuel cs).map (none :: ·)
    else if c = '\x5c' then do
      let (literal, rest) ← escaped? cs
      (signs? fuel rest).map (literal.map some ++ ·)
    else if isControl c || Text.isBlank c then none
    else (signs? fuel cs).map (some c :: ·)

/-- The texts between the full stops of a name. -/
def cutLabels : List (Option Char) → List (List Char)
  | [] => [[]]
  | none :: signs => [] :: cutLabels signs
  | some c :: signs =>
    match cutLabels signs with
    | [] => [[c]]
    | label :: labels => (c :: label) :: labels

/-! ## Labels -/

/-- The characters that only later editions of the rules admit, as closed ranges of code
points. -/
def laterRanges : List (Nat × Nat) :=
  [(0x4C0, 0x4C0), (0x88F, 0x897), (0xC5C, 0xC5C), (0xCDC, 0xCDC), (0x10A0, 0x10C5),
   (0x115F, 0x1160), (0x17B4, 0x17B5), (0x1806, 0x1806), (0x180E, 0x180E), (0x1ACF, 0x1AEB),
   (0x1B4E, 0x1B4F), (0x1B7F, 0x1B7F), (0x1C89, 0x1C8A), (0x2061, 0x2063), (0x206A, 0x206F),
   (0x20C1, 0x20C1), (0x2132, 0x2132), (0x2183, 0x2183), (0x2427, 0x2429), (0x2B96, 0x2B96),
   (0x3164, 0x3164), (0x31E4, 0x31E5), (0xA7CB, 0xA7CF), (0xA7D2, 0xA7D2), (0xA7D4, 0xA7D4),
   (0xA7DA, 0xA7F1), (0xFBC3, 0xFBD2), (0xFD90, 0xFD91), (0xFDC8, 0xFDCE), (0xFFA0, 0xFFA0),
   (0x105C0, 0x105F3), (0x10940, 0x10959), (0x10D40, 0x10D8F), (0x10EC2, 0x10EFC),
   (0x11380, 0x113E2), (0x116D0, 0x116E3), (0x11B60, 0x11BF9), (0x11DB0, 0x11DE9),
   (0x11F5A, 0x11F5A), (0x13460, 0x143FA), (0x16100, 0x16139), (0x16D40, 0x16D79),
   (0x16EA0, 0x16ED3), (0x16FF2, 0x16FF6), (0x187F8, 0x187FF), (0x18CFF, 0x18CFF),
   (0x18D09, 0x18DF2), (0x1CC00, 0x1CEF0), (0x1D173, 0x1D17A), (0x1E5D0, 0x1E6FF),
   (0x1F6D8, 0x1F6D8), (0x1F777, 0x1F77A), (0x1F8B2, 0x1F8D8), (0x1FA54, 0x1FA57),
   (0x1FA89, 0x1FA8F), (0x1FABE, 0x1FABE), (0x1FAC6, 0x1FACD), (0x1FADC, 0x1FADF),
   (0x1FAE9, 0x1FAEF), (0x1FBCB, 0x1FBEF), (0x1FBFA, 0x1FBFA), (0x2B73A, 0x2B73F),
   (0x2CEA2, 0x2CEAD), (0x2EBF0, 0x2EE5D), (0x2F868, 0x2F868), (0x2F874, 0x2F874),
   (0x2F91F, 0x2F91F), (0x2F95F, 0x2F95F), (0x2F9BF, 0x2F9BF), (0x323B0, 0x33479)]

/-- A character that is admitted by later editions only. -/
def isLater (c : Char) : Bool := Text.inRanges laterRanges c.toNat

/-- The rules for the labels of a name. -/
def labelRules : Idn.Rules where
  image? c :=
    if c = 'ß' ∨ c = 'ẞ' then some ['s', 's']
    else if c = 'ς' then some ['σ']
    else if c = Idn.joiner ∨ c = Idn.nonJoiner then some []
    else if isLater c then none
    else Idn.image? c
  isLasting c := !isLater c && Idn.isLasting c
  isRefused c :=
    if c.toNat < 128 then !(c.isAlphanum || c == '-') else ['≮', '≯', '≠'].contains c
  checksJoiners := false
  codesAscii := true

/-- Parts in ASCII fit together as a name: none is empty or longer than 63 characters, and together
they have at most 253; one empty part may end them. -/
def fitTogether (pieces : List (List Char)) : Bool :=
  let pieces := if pieces.getLast? = some [] then pieces.dropLast else pieces
  !pieces.isEmpty && pieces.all (fun p => !p.isEmpty && p.length ≤ 63) &&
    (Ip.joinWith '.' pieces).length ≤ 253

/-- A label in ASCII that can be sent: letters, digits, underscores and full stops, hyphens behind
the first character, and an asterisk in front. -/
def isSendable : List Char → Bool
  | [] => false
  | c :: cs =>
    let plain (c : Char) : Bool := c.isAlphanum || c == '_' || c == '.'
    (plain c || c == '*') && cs.all (fun c => plain c || c == '-') && cs.length < 63

/-- The ASCII form of a label.  An asterisk by itself, and a label that begins with an underscore,
are written as they stand. -/
def sentLabel? (label : List Char) : Option (List Char) := do
  let sent ←
    if label = ['*'] ∨ label.head? = some '_' then some label
    else do
      let pieces := (← labelRules.labels? label).map Idn.writtenLabel
      if fitTogether pieces then some (Ip.joinWith '.' pieces) else none
  if isSendable sent then some sent else none

/-! ## Names -/

/-- The labels of a name in the form in which they are sent; `none` for a text that is no name.
Root is a full stop by itself, one full stop may end a name, and a name has at most 255 bytes as it
is sent. -/
def labels? (name : String) : Option (List (List Char)) := do
  if name = "." then return []
  let pieces := cutLabels (← signs? name.toList.length name.toList)
  let labels ← (if pieces.getLast? = some [] then pieces.dropLast else pieces).mapM sentLabel?
  if labels.foldl (fun n label => n + label.length + 1) 1 ≤ 255 then some labels else none

/-- How names of special use are settled without asking. -/
inductive SpecialUse where
  | loopback
  | nonexistent
  deriving DecidableEq, Repr

/-- The zones of special use: their labels, the last one first, and the use. -/
def specialZones : List (List String × SpecialUse) :=
  [(["localhost"], .loopback),
   (["arpa", "in-addr", "127"], .loopback),
   (["arpa", "ip6"] ++ List.replicate 31 "0" ++ ["1"], .loopback),
   (["invalid"], .nonexistent),
   (["onion"], .nonexistent)]

/-- The special use of the name with the given labels. -/
def specialUse? (labels : List (List Char)) : Option SpecialUse :=
  let path := (labels.map fun l => String.ofList (l.map Char.toLower)).reverse
  (specialZones.find? fun zone => zone.1.isPrefixOf path).map (·.2)

end SpamVerdict.Dns
