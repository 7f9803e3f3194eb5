import SpamVerdict.Proofs.Ip.SharedBits
import SpamVerdict.Proofs.Ip.Spelling
set_option autoImplicit false

/-!
# Membership in a block (SPEC_FULL §4.4)

What a text says as a block is put as a grammar: an address, or an address, a slash and a numeral
(`Spells`).  The grammar is not ambiguous since no spelling of an address has a slash, so the text
is read as it says (`spells_iff`).  With the comparison read as one of numbers this gives membership
in full: an address is in the block of a text exactly if the text spells a network of its family and
a length for which the two have the same quotient (`inBlock_iff_spells`).

So what SPEC_FULL §4.4 describes byte by byte is the equality of two prefixes, and everything that
it calls no match, another family and a text that does not parse included, fails one condition.
-/

namespace SpamVerdict

/-! ## Numerals -/

namespace Decimal

/-- A text spells a number: decimal digits, at least one and with any number of zeros in front,
behind an optional plus sign. -/
def Spells (cs : List Char) (n : Nat) : Prop :=
  ∃ digits, (cs = digits ∨ cs = '+' :: digits) ∧ digits ≠ [] ∧
    (∀ c ∈ digits, c.isDigit = true) ∧ value digits = n

theorem unsigned?_eq_some_iff {cs : List Char} {n : Nat} :
    unsigned? cs = some n ↔ Spells cs n := by
  simp only [Spells, ← digits?_eq_some_iff]
  constructor
  · intro h
    unfold unsigned? at h
    split at h
    · next digits => exact ⟨digits, .inr rfl, h⟩
    · exact ⟨cs, .inl rfl, h⟩
  · rintro ⟨digits, rfl | rfl, h⟩
    · unfold unsigned?
      split
      · next rest =>
        have hplus := (digits?_eq_some_iff.1 h).2.1 '+' List.mem_cons_self
        cases hplus
      · exact h
    · exact h

theorem below?_eq_some_iff {bound n : Nat} {cs : List Char} :
    below? bound cs = some n ↔ Spells cs n ∧ n < bound := by
  rw [below?, Option.filter_eq_some_iff, unsigned?_eq_some_iff, decide_eq_true_eq]

end Decimal

namespace Ip

/-! ## Spellings of addresses -/

theorem Address.slash_not_mem {cs : List Char} {x : Address} (h : Address.ofChars? cs = some x) :
    '/' ∉ cs := by
  intro hmem
  rcases (Address.ofChars?_eq_some_iff.1 h).mem hmem with hhex | hdot | hcolon
  · revert hhex
    decide
  · exact absurd hdot (by decide)
  · exact absurd hcolon (by decide)

/-! ## Spellings of blocks -/

/-- A text spells a network and the number of leading bits that the addresses of its block share
with it; where no number is written they share all. -/
inductive Spells : List Char → Address → Nat → Prop where
  | host {text : List Char} {network : Address} (hnetwork : Address.ofChars? text = some network) :
      Spells text network network.family.width
  | block {text numeral : List Char} {network : Address} {length : Nat}
      (hnetwork : Address.ofChars? text = some network)
      (hlength : Decimal.Spells numeral length) (hbyte : length < 256) :
      Spells (text ++ '/' :: numeral) network length

theorem spells_iff {cs : List Char} {network : Address} {length : Nat} :
    Spells cs network length ↔
      ∃ b, Block.ofChars? cs = some b ∧ b.network = network ∧
        b.length.getD network.family.width = length := by
  constructor
  · rintro (hnetwork | ⟨hnetwork, hlength, hbyte⟩)
    · have hread : Block.ofChars? cs = some ⟨network, none⟩ := by
        rw [Block.ofChars?, Text.cut?_eq_none (Address.slash_not_mem hnetwork)]
        simp [hnetwork]
      exact ⟨_, hread, rfl, rfl⟩
    · next text numeral =>
      have hread : Block.ofChars? (text ++ '/' :: numeral) = some ⟨network, some length⟩ := by
        rw [Block.ofChars?, Text.cut?_append (Address.slash_not_mem hnetwork)]
        simp [hnetwork, Decimal.below?_eq_some_iff.2 ⟨hlength, hbyte⟩]
      exact ⟨_, hread, rfl, rfl⟩
  · rintro ⟨b, hread, rfl, rfl⟩
    unfold Block.ofChars? at hread
    split at hread
    · obtain ⟨network, hnetwork, rfl⟩ := Option.map_eq_some_iff.1 hread
      exact .host hnetwork
    · next text numeral hcut =>
      simp only [Option.bind_eq_bind, Option.bind_eq_some_iff, Option.pure_def,
        Option.some.injEq] at hread
      obtain ⟨length, hbelow, network, hnetwork, rfl⟩ := hread
      obtain ⟨hlength, hbyte⟩ := Decimal.below?_eq_some_iff.1 hbelow
      rw [Text.eq_append_of_cut? hcut]
      exact .block hnetwork hlength hbyte

/-! ## Membership -/

theorem Address.length_octets (x : Address) : 8 * x.octets.length = x.family.width := by
  cases x <;> rfl

theorem Address.length_octets_eq {x y : Address} (h : y.family = x.family) :
    x.octets.length = y.octets.length := by
  have hx := x.length_octets
  have hy := y.length_octets
  rw [h] at hy
  omega

theorem Block.contains_iff {b : Block} {x : Address} :
    b.contains x = true ↔ b.network.family = x.family ∧
      shareBits x.octets b.network.octets (b.length.getD x.family.width) = true := by
  obtain ⟨network, length⟩ := b
  cases x <;> cases network <;> simp [Block.contains, Address.family, Address.octets, Family.width]

/-- Membership with the comparison step by step, in which a slice past the end, an index past the
end or a shift by eight or more has no result. -/
def Block.contains? (block : Block) (x : Address) : Option Bool :=
  match x, block.network with
  | .v4 x, .v4 n => shareBits? x.octets n.octets (block.length.getD 32)
  | .v6 x, .v6 n => shareBits? x.octets n.octets (block.length.getD 128)
  | _, _ => some false

theorem Block.contains?_eq (b : Block) (x : Address) : b.contains? x = some (b.contains x) := by
  obtain ⟨network, length⟩ := b
  cases x with
  | v4 x =>
    cases network with
    | v4 n =>
      have hlength : x.octets.length ≤ n.octets.length := Nat.le_refl 4
      exact shareBits?_eq hlength _
    | v6 n => rfl
  | v6 x =>
    cases network with
    | v4 n => rfl
    | v6 n =>
      have hlength : x.octets.length ≤ n.octets.length := Nat.le_refl 16
      exact shareBits?_eq hlength _

/-- An address is in the block of a text exactly if the text, without blanks around it, spells a
network of the family of the address and a length up to the width of that family for which the
leading bits of the two are the same number.  The comparison that decides this, for any block and
any two lists of octets of which the second is not shorter, never leaves the octets and never
shifts by the width of one. -/
theorem inBlock_iff_spells (x : Address) (block : String) :
    (x.inBlock block = true ↔
      ∃ network length, Spells (Text.trim block).toList network length ∧
        network.family = x.family ∧ length ≤ x.family.width ∧
        x.toNat / 2 ^ (x.family.width - length) =
          network.toNat / 2 ^ (x.family.width - length)) ∧
      (∀ b : Block, b.contains? x = some (b.contains x)) ∧
      ∀ (xs ys : List UInt8) (length : Nat), xs.length ≤ ys.length →
        shareBits? xs ys length = some (shareBits xs ys length) := by
  refine ⟨?_, fun b => b.contains?_eq x, fun xs ys length h => shareBits?_eq h length⟩
  have hshare {network : Address} (hfamily : network.family = x.family) (length : Nat) :
      shareBits x.octets network.octets length = true ↔ length ≤ x.family.width ∧
        x.toNat / 2 ^ (x.family.width - length) =
          network.toNat / 2 ^ (x.family.width - length) := by
    rw [shareBits_iff (Address.length_octets_eq hfamily), x.length_octets,
      ← Address.toNat_eq_numberOf, ← Address.toNat_eq_numberOf]
  simp only [spells_iff, Address.inBlock, Text.toList_trim]
  constructor
  · intro h
    split at h
    · next b hread =>
      obtain ⟨hfamily, hbits⟩ := Block.contains_iff.1 h
      exact ⟨b.network, _, ⟨b, hread, rfl, by rw [hfamily]⟩, hfamily, (hshare hfamily _).1 hbits⟩
    · cases h
  · rintro ⟨-, -, ⟨b, hread, rfl, rfl⟩, hfamily, hbits⟩
    rw [hread]
    rw [hfamily] at hbits
    exact Block.contains_iff.2 ⟨hfamily, (hshare hfamily _).2 hbits⟩

/-- A numeral with a sign and zeros in front, and a block that ends inside an octet. -/
theorem inBlock_iff_spells_seventeen :
    Address.inBlock (.v4 ⟨172, 16, 127, 4⟩) " 172.16.0.0/+017 " = true ∧
      shareBits? [172, 16, 127, 4] [172, 16, 0, 0, 9] 17 = some true := by
  have hclaim := inBlock_iff_spells (.v4 ⟨172, 16, 127, 4⟩) " 172.16.0.0/+017 "
  have hspells : Spells (Text.trim " 172.16.0.0/+017 ").toList (.v4 ⟨172, 16, 0, 0⟩) 17 := by
    have htext : (Text.trim " 172.16.0.0/+017 ").toList =
        "172.16.0.0".toList ++ '/' :: "+017".toList := by decide +kernel
    rw [htext]
    have hdigits : ∀ c ∈ "017".toList, c.isDigit = true := List.all_eq_true.1 (by decide)
    exact .block (by decide +kernel) ⟨"017".toList, .inr rfl, by decide, hdigits, by decide⟩
      (by decide)
  refine ⟨hclaim.1.2 ⟨_, 17, hspells, rfl, by decide, by decide⟩, ?_⟩
  rw [hclaim.2.2 _ _ _ (by decide)]
  decide

end Ip

end SpamVerdict
