import SpamVerdict.Decimal.Numeral
import SpamVerdict.Text.CharClass
set_option autoImplicit false

/-!
# Internet addresses (SPEC_FULL §4.1, §4.3)

An address is four octets or eight groups of sixteen bits.  Its two views are the list of its
octets, most significant first, and the number they spell in base 256 (`Address.toNat`).

`Address.print` writes the canonical text: dotted octets, or lower-case groups in which the
first of the longest runs of two or more zero groups stands as `::` and an IPv4-mapped address
keeps its dotted form.  `Address.parse?` reads that text and every other spelling of an address,
but no zone, no brackets and no leading zero in a dotted part.

A text that does not parse is no address (SPEC_FULL §4.1, step 3).  Addresses are compared as such
and not as texts, which is what §4.3 means by equality after normalization.
-/

namespace SpamVerdict.Ip

/-! ## Types -/

/-- An IPv4 address: its four octets. -/
structure V4 where
  a : UInt8
  b : UInt8
  c : UInt8
  d : UInt8
  deriving DecidableEq, Repr, Inhabited

/-- An IPv6 address: its eight groups. -/
structure V6 where
  g0 : UInt16
  g1 : UInt16
  g2 : UInt16
  g3 : UInt16
  g4 : UInt16
  g5 : UInt16
  g6 : UInt16
  g7 : UInt16
  deriving DecidableEq, Repr, Inhabited

/-- An address of either family. -/
inductive Address where
  | v4 (address : V4)
  | v6 (address : V6)
  deriving DecidableEq, Repr, Inhabited

/-- The two address families. -/
inductive Family where
  | v4
  | v6
  deriving DecidableEq, Repr, Inhabited

/-! ## Octets and groups -/

/-- The high and the low octet of a group. -/
def splitGroup (g : UInt16) : List UInt8 :=
  [(g / 256).toUInt8, g.toUInt8]

/-- The group that two octets make. -/
def joinOctets (hi lo : UInt8) : UInt16 :=
  hi.toUInt16 * 256 + lo.toUInt16

namespace V4

/-- The octets, most significant first. -/
def octets (x : V4) : List UInt8 := [x.a, x.b, x.c, x.d]

/-- The address as the last two groups of an IPv6 address. -/
def groups (x : V4) : List UInt16 := [joinOctets x.a x.b, joinOctets x.c x.d]

end V4

namespace V6

/-- The groups, most significant first. -/
def groups (x : V6) : List UInt16 := [x.g0, x.g1, x.g2, x.g3, x.g4, x.g5, x.g6, x.g7]

/-- The octets, most significant first. -/
def octets (x : V6) : List UInt8 := x.groups.flatMap splitGroup

/-- The address with the given groups, if there are eight. -/
def ofGroups? : List UInt16 → Option V6
  | [g0, g1, g2, g3, g4, g5, g6, g7] => some ⟨g0, g1, g2, g3, g4, g5, g6, g7⟩
  | _ => none

@[simp] theorem ofGroups?_groups (x : V6) : ofGroups? x.groups = some x := rfl

@[simp] theorem length_groups (x : V6) : x.groups.length = 8 := rfl

/-- The IPv4 address in the low 32 bits of an address of `::ffff:0:0/96`. -/
def mapped? (x : V6) : Option V4 :=
  if x.g0 = 0 ∧ x.g1 = 0 ∧ x.g2 = 0 ∧ x.g3 = 0 ∧ x.g4 = 0 ∧ x.g5 = 0xFFFF then
    some ⟨(x.g6 / 256).toUInt8, x.g6.toUInt8, (x.g7 / 256).toUInt8, x.g7.toUInt8⟩
  else none

/-- The IPv4-mapped form of an IPv4 address. -/
def ofV4 (x : V4) : V6 :=
  ⟨0, 0, 0, 0, 0, 0xFFFF, joinOctets x.a x.b, joinOctets x.c x.d⟩

end V6

namespace Address

/-- The octets, most significant first. -/
def octets : Address → List UInt8
  | v4 x => x.octets
  | v6 x => x.octets

/-- The number that the octets spell in base 256. -/
def toNat (x : Address) : Nat :=
  x.octets.foldl (fun n o => 256 * n + o.toNat) 0

/-- The family of an address; an IPv4-mapped address is of the IPv6 family. -/
def family : Address → Family
  | v4 _ => .v4
  | v6 _ => .v6

end Address

/-- The number of bits in an address of a family. -/
def Family.width : Family → Nat
  | .v4 => 32
  | .v6 => 128

/-! ## Printing -/

/-- The decimal text of an octet. -/
def octetText (o : UInt8) : List Char := Decimal.numeral o.toNat

/-- The lower-case hexadecimal text of a group, without leading zeros. -/
def groupText (g : UInt16) : List Char := Nat.toDigits 16 g.toNat

/-- Texts with a separator between neighbours. -/
def joinWith (sep : Char) : List (List Char) → List Char
  | [] => []
  | [t] => t
  | t :: ts => t ++ sep :: joinWith sep ts

/-- The dotted text of an IPv4 address. -/
def V4.text (x : V4) : List Char := joinWith '.' (x.octets.map octetText)

/-- Groups with colons between them. -/
def groupsText (gs : List UInt16) : List Char := joinWith ':' (gs.map groupText)

/-- The number of zero groups that a list of groups starts with. -/
def leadingZeros (gs : List UInt16) : Nat := (gs.takeWhile (· == 0)).length

/-- Where the first of the longest runs of zero groups starts, and its length. -/
def longestZeros : List UInt16 → Nat × Nat
  | [] => (0, 0)
  | g :: gs =>
    let (start, length) := longestZeros gs
    let here := leadingZeros (g :: gs)
    if length ≤ here then (0, here) else (start + 1, length)

/-- The canonical text of an IPv6 address. -/
def V6.text (x : V6) : List Char :=
  match x.mapped? with
  | some y => "::ffff:".toList ++ y.text
  | none =>
    let (start, length) := longestZeros x.groups
    if 1 < length then
      groupsText (x.groups.take start) ++ [':', ':'] ++ groupsText (x.groups.drop (start + length))
    else groupsText x.groups

/-- The canonical text of an address. -/
def Address.print : Address → String
  | v4 x => String.ofList x.text
  | v6 x => String.ofList x.text

/-! ## Reading -/

/-- An octet of a dotted text: one to three digits, no leading zero, at most 255. -/
def octet? (cs : List Char) : Option UInt8 :=
  if cs.length ≤ 3 && (cs.length == 1 || cs.head? != some '0') then
    ((Decimal.digits? cs).filter (· < 256)).map UInt8.ofNat
  else none

/-- The IPv4 address that a dotted text spells. -/
def V4.parse? (cs : List Char) : Option V4 :=
  match Text.split (· == '.') cs with
  | [a, b, c, d] => do return ⟨← octet? a, ← octet? b, ← octet? c, ← octet? d⟩
  | _ => none

/-- The number that hexadecimal digits stand for. -/
def hexValue (cs : List Char) : Nat :=
  cs.foldl (fun n c => 16 * n + (Text.hexValue? c).getD 0) 0

/-- A group of an IPv6 text: one to four hexadecimal digits. -/
def group? (cs : List Char) : Option UInt16 :=
  if !cs.isEmpty && cs.length ≤ 4 && cs.all Text.isHexDigit then
    some (UInt16.ofNat (hexValue cs))
  else none

/-- The groups that the parts between colons stand for; the last part may be dotted if `dotted`
allows it, and then counts for two groups. -/
def groupsOfParts? (dotted : Bool) : List (List Char) → Option (List UInt16)
  | [] => some []
  | [part] =>
    match group? part with
    | some g => some [g]
    | none => if dotted then (V4.parse? part).map V4.groups else none
  | part :: parts => do
    let g ← group? part
    let gs ← groupsOfParts? dotted parts
    return g :: gs

/-- The groups of a text without `::`; the empty text has none. -/
def groups? (dotted : Bool) (cs : List Char) : Option (List UInt16) :=
  if cs.isEmpty then some [] else groupsOfParts? dotted (Text.split (· == ':') cs)

/-- The text before the first `::` and the text after it. -/
def cutDoubleColon? : List Char → Option (List Char × List Char)
  | ':' :: ':' :: cs => some ([], cs)
  | [] => none
  | c :: cs => (cutDoubleColon? cs).map fun (before, after) => (c :: before, after)

theorem cutDoubleColon?_of_ne {c : Char} {cs : List Char}
    (h : ∀ rest, c :: cs ≠ ':' :: ':' :: rest) :
    cutDoubleColon? (c :: cs) =
      (cutDoubleColon? cs).map fun (before, after) => (c :: before, after) := by
  rw [cutDoubleColon?]
  intro rest hc hcs
  exact h rest (by rw [hc, hcs])

theorem eq_append_of_cutDoubleColon? {cs before after : List Char}
    (h : cutDoubleColon? cs = some (before, after)) : cs = before ++ ':' :: ':' :: after := by
  fun_induction cutDoubleColon? cs generalizing before after with
  | case1 rest => cases h; rfl
  | case2 => cases h
  | case3 c cs hne ih =>
    obtain ⟨⟨front, back⟩, hcut, heq⟩ := Option.map_eq_some_iff.1 h
    cases heq
    rw [ih hcut, List.cons_append]

/-- The IPv6 address that a text spells; `::` stands for at least one zero group. -/
def V6.parse? (cs : List Char) : Option V6 :=
  match cutDoubleColon? cs with
  | none => (groups? true cs).bind V6.ofGroups?
  | some (before, after) => do
    let front ← groups? false before
    let back ← groups? true after
    if front.length + back.length ≤ 7 then
      V6.ofGroups? (front ++ List.replicate (8 - (front.length + back.length)) 0 ++ back)
    else none

/-- The address that a text spells. -/
def Address.ofChars? (cs : List Char) : Option Address :=
  match V4.parse? cs with
  | some x => some (.v4 x)
  | none => (V6.parse? cs).map .v6

/-- The address that a text spells. -/
def Address.parse? (s : String) : Option Address := Address.ofChars? s.toList

end SpamVerdict.Ip
