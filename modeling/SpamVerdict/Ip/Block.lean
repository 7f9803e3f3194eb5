import SpamVerdict.Ip.Address
set_option autoImplicit false

/-!
# Address blocks (SPEC_FULL §4.4)

A block is a network address with the number of leading bits that its members share; without a
number it holds the network address alone.  Membership compares whole octets and then the high
bits of the octet in which the shared part ends.

By SPEC_FULL §4.4 addresses of different families never match, and neither do texts that are no
address or no block; none of this is an error.  The comparison is the one that §4.4 describes, byte
by byte and then under a mask.
-/

namespace SpamVerdict.Ip

/-- A block of addresses: `network/length`. -/
structure Block where
  network : Address
  length : Option Nat
  deriving DecidableEq, Repr

/-- The high `bits` bits of the octet at a position, the others cleared.  There is a result only
if the octet exists and the mask is a shift by less than eight. -/
def highBits? (octets : List UInt8) (position bits : Nat) : Option UInt8 :=
  if 8 - bits < 8 then
    octets[position]?.map fun o => o &&& ((0xFF : UInt8) <<< UInt8.ofNat (8 - bits))
  else none

/-- Two lists of octets have the same first `length` bits, and that many bits exist. -/
def shareBits (x y : List UInt8) (length : Nat) : Bool :=
  length ≤ 8 * x.length &&
    x.take (length / 8) == y.take (length / 8) &&
      (length % 8 == 0 ||
        highBits? x (length / 8) (length % 8) == highBits? y (length / 8) (length % 8))

namespace Block

/-- The block that a text spells: an address, optionally followed by a slash and the number of
shared bits, which is below 256 and may have a plus sign. -/
def ofChars? (cs : List Char) : Option Block :=
  match Text.cut? '/' cs with
  | none => (Address.ofChars? cs).map fun network => ⟨network, none⟩
  | some (network, length) => do
    let length ← Decimal.below? 256 length
    let network ← Address.ofChars? network
    return ⟨network, some length⟩

/-- An address lies in a block: it is of the same family and shares its leading bits. -/
def contains (block : Block) (x : Address) : Bool :=
  match x, block.network with
  | .v4 x, .v4 n => shareBits x.octets n.octets (block.length.getD 32)
  | .v6 x, .v6 n => shareBits x.octets n.octets (block.length.getD 128)
  | _, _ => false

end Block

/-- An address lies in the block that a text spells, blanks around it not counted. -/
def Address.inBlock (x : Address) (block : String) : Bool :=
  match Block.ofChars? (Text.trimOf Text.isBlank block.toList) with
  | some b => b.contains x
  | none => false

/-- The address that a text spells lies in the block that another text spells. -/
def textInBlock (ip block : String) : Bool :=
  match Address.parse? (Text.trim ip) with
  | some x => x.inBlock block
  | none => false

end SpamVerdict.Ip
