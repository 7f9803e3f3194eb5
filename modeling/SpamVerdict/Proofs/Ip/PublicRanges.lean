import SpamVerdict.Ip.Public
import SpamVerdict.Proofs.Ip.Membership
import Mathlib.Data.List.Forall2
import Mathlib.Data.List.Induction
set_option autoImplicit false

/-!
# Public addresses and address blocks (SPEC_FULL §4.1, §4.4)

Whether an address is public is decided from its octets and groups, and whether it lies in a block
from the text of the block.  The two agree: an address is public exactly if it lies outside all
blocks of a fixed list, and in the block of the IPv4-mapped addresses the IPv4 address decides
(`isPublic_agrees_with_blocks`).  The blocks are short, so that membership is a matter of the first
sixteen bits of the address (`lead`).

SPEC_FULL §4.1 only says "non-private, non-reserved"; the list of blocks here is what that comes to.
-/

namespace SpamVerdict.Ip

/-! ## The blocks -/

/-- The blocks of IPv4 addresses that are not public. -/
def reservedQuads : List String :=
  ["0.0.0.0/8", "10.0.0.0/8", "100.64.0.0/10", "127.0.0.0/8", "169.254.0.0/16", "172.16.0.0/12",
    "192.168.0.0/16", "224.0.0.0/4", "240.0.0.0/4"]

/-- The blocks of IPv6 addresses that are not public, the IPv4-mapped addresses apart. -/
def reservedGroups : List String := ["::/128", "::1/128", "fc00::/7", "fe80::/10", "ff00::/8"]

/-- The block of the IPv4-mapped addresses. -/
def mappedBlock : String := "::ffff:0:0/96"

/-- The IPv4 address in the low 32 bits. -/
def V6.low (x : V6) : V4 := ⟨(x.g6 / 256).toUInt8, x.g6.toUInt8, (x.g7 / 256).toUInt8, x.g7.toUInt8⟩

/-- A text is the spelling of a block. -/
def ReadsAs (text : String) (block : Block) : Prop :=
  Block.ofChars? (Text.trimOf Text.isBlank text.toList) = some block

theorem inBlock_eq_contains {text : String} {block : Block} (hread : ReadsAs text block)
    (x : Address) : x.inBlock text = block.contains x := by
  rw [Address.inBlock, show Block.ofChars? _ = some block from hread]

/-- To be outside the blocks of texts is to be outside the blocks that are read from them. -/
theorem outside_iff {texts : List String} {blocks : List Block}
    (hread : List.Forall₂ ReadsAs texts blocks) (x : Address) :
    (∀ text ∈ texts, x.inBlock text = false) ↔ ∀ block ∈ blocks, ¬ block.contains x = true := by
  induction hread with
  | nil => simp
  | cons hhead _ ih =>
    rw [List.forall_mem_cons, List.forall_mem_cons, ih, inBlock_eq_contains hhead,
      Bool.not_eq_true]

/-! ## Addresses as numbers -/

theorem numberOf_flatMap_splitGroup (gs : List UInt16) :
    numberOf (gs.flatMap splitGroup) = gs.foldl (fun n g => 65536 * n + g.toNat) 0 := by
  induction gs using List.reverseRecOn with
  | nil => rfl
  | append_singleton gs g ih =>
    have hg : g.toNat < 65536 := g.toNat_lt
    rw [List.flatMap_append, List.flatMap_singleton, splitGroup, List.append_cons,
      numberOf_append_singleton, numberOf_append_singleton, ih, List.foldl_append, List.foldl_cons,
      List.foldl_nil, UInt16.toNat_toUInt8, UInt16.toNat_toUInt8, UInt16.toNat_div]
    simp
    omega

theorem V4.toNat_eq (x : V4) : (Address.v4 x).toNat =
    256 * (256 * (256 * x.a.toNat + x.b.toNat) + x.c.toNat) + x.d.toNat := by
  simp [Address.toNat, Address.octets, octets]

theorem V6.toNat_eq (x : V6) : (Address.v6 x).toNat =
    65536 * (65536 * (65536 * (65536 * (65536 * (65536 * (65536 * x.g0.toNat + x.g1.toNat) +
      x.g2.toNat) + x.g3.toNat) + x.g4.toNat) + x.g5.toNat) + x.g6.toNat) + x.g7.toNat := by
  rw [Address.toNat_eq_numberOf, Address.octets, octets, numberOf_flatMap_splitGroup]
  simp [groups]

/-- The low address spells the remainder by the weight of its bits. -/
theorem V6.toNat_low (x : V6) :
    (Address.v4 x.low).toNat = (Address.v6 x).toNat % 2 ^ 32 := by
  have h6 : x.g6.toNat < 65536 := x.g6.toNat_lt
  have h7 : x.g7.toNat < 65536 := x.g7.toNat_lt
  rw [V4.toNat_eq, V6.toNat_eq]
  simp only [low, UInt16.toNat_toUInt8, UInt16.toNat_div]
  simp
  omega

/-- The first sixteen bits of an address. -/
def lead : Address → Nat
  | .v4 x => 256 * x.a.toNat + x.b.toNat
  | .v6 x => x.g0.toNat

theorem lead_eq (x : Address) : lead x = x.toNat / 2 ^ (x.family.width - 16) := by
  cases x with
  | v4 x =>
    have hc := x.c.toNat_lt
    have hd := x.d.toNat_lt
    rw [V4.toNat_eq]
    simp only [lead, Address.family, Family.width]
    omega
  | v6 x =>
    have h1 := x.g1.toNat_lt
    have h2 := x.g2.toNat_lt
    have h3 := x.g3.toNat_lt
    have h4 := x.g4.toNat_lt
    have h5 := x.g5.toNat_lt
    have h6 := x.g6.toNat_lt
    have h7 := x.g7.toNat_lt
    rw [V6.toNat_eq]
    simp only [lead, Address.family, Family.width]
    omega

/-! ## Membership by numbers -/

theorem contains_iff_div {network x : Address} (hfamily : network.family = x.family)
    (length : Nat) : Block.contains ⟨network, some length⟩ x = true ↔ length ≤ x.family.width ∧
      x.toNat / 2 ^ (x.family.width - length) =
        network.toNat / 2 ^ (x.family.width - length) := by
  rw [Block.contains_iff, and_iff_right hfamily, Option.getD_some,
    shareBits_iff (Address.length_octets_eq hfamily), x.length_octets,
    ← Address.toNat_eq_numberOf, ← Address.toNat_eq_numberOf]

/-- Membership in a short block is decided by the first sixteen bits. -/
theorem contains_iff_lead {network x : Address} (hfamily : network.family = x.family)
    {length : Nat} (hlength : length ≤ 16) : Block.contains ⟨network, some length⟩ x = true ↔
      lead x / 2 ^ (16 - length) = lead network / 2 ^ (16 - length) := by
  have hwidth : 16 ≤ x.family.width := by cases x <;> simp [Address.family, Family.width]
  have hsplit : x.family.width - length = x.family.width - 16 + (16 - length) := by omega
  rw [contains_iff_div hfamily, and_iff_right (hlength.trans hwidth), lead_eq, lead_eq, hfamily,
    Nat.div_div_eq_div_mul, Nat.div_div_eq_div_mul, ← Nat.pow_add, ← hsplit]

theorem V4.contains_iff_lead (network x : V4) {length : Nat} (hlength : length ≤ 16) :
    Block.contains ⟨.v4 network, some length⟩ (.v4 x) = true ↔
      lead (.v4 x) / 2 ^ (16 - length) = lead (.v4 network) / 2 ^ (16 - length) :=
  Ip.contains_iff_lead (by rfl) hlength

theorem V6.contains_iff_lead (network x : V6) {length : Nat} (hlength : length ≤ 16) :
    Block.contains ⟨.v6 network, some length⟩ (.v6 x) = true ↔
      lead (.v6 x) / 2 ^ (16 - length) = lead (.v6 network) / 2 ^ (16 - length) :=
  Ip.contains_iff_lead (by rfl) hlength

/-- A block of full length holds its network alone. -/
theorem V6.contains_iff_toNat (network x : V6) :
    Block.contains ⟨.v6 network, some 128⟩ (.v6 x) = true ↔
      (Address.v6 x).toNat = (Address.v6 network).toNat := by
  have hwidth : (Address.v6 x).family.width = 128 := rfl
  rw [contains_iff_div (by rfl), hwidth]
  simp

/-! ## IPv4 -/

theorem readsAs_reservedQuads : List.Forall₂ ReadsAs reservedQuads
    [⟨.v4 ⟨0, 0, 0, 0⟩, some 8⟩, ⟨.v4 ⟨10, 0, 0, 0⟩, some 8⟩, ⟨.v4 ⟨100, 64, 0, 0⟩, some 10⟩,
      ⟨.v4 ⟨127, 0, 0, 0⟩, some 8⟩, ⟨.v4 ⟨169, 254, 0, 0⟩, some 16⟩,
      ⟨.v4 ⟨172, 16, 0, 0⟩, some 12⟩, ⟨.v4 ⟨192, 168, 0, 0⟩, some 16⟩,
      ⟨.v4 ⟨224, 0, 0, 0⟩, some 4⟩, ⟨.v4 ⟨240, 0, 0, 0⟩, some 4⟩] := by
  unfold reservedQuads ReadsAs
  decide +kernel

theorem V4.isPublic_iff (x : V4) : x.isPublic = true ↔
    ¬ (x.a.toNat = 0 ∨ x.a.toNat = 10 ∨ x.a.toNat = 127 ∨ 224 ≤ x.a.toNat ∨
      (x.a.toNat = 100 ∧ 64 ≤ x.b.toNat ∧ x.b.toNat < 128) ∨
      (x.a.toNat = 169 ∧ x.b.toNat = 254) ∨
      (x.a.toNat = 172 ∧ 16 ≤ x.b.toNat ∧ x.b.toNat < 32) ∨
      (x.a.toNat = 192 ∧ x.b.toNat = 168)) := by
  simp only [isPublic, Bool.not_eq_true', ← Bool.not_eq_true, Bool.or_eq_true, Bool.and_eq_true,
    beq_iff_eq, decide_eq_true_eq, ← UInt8.toNat_inj, UInt8.le_iff_toNat_le, UInt8.lt_iff_toNat_lt,
    UInt8.reduceToNat, or_assoc, and_assoc]

theorem V4.isPublic_iff_outside (x : V4) : (Address.v4 x).isPublic = true ↔
    ∀ block ∈ reservedQuads, (Address.v4 x).inBlock block = false := by
  have ha : x.a.toNat < 256 := x.a.toNat_lt
  have hb : x.b.toNat < 256 := x.b.toNat_lt
  rw [outside_iff readsAs_reservedQuads, Address.isPublic, V4.isPublic_iff]
  simp only [List.forall_mem_cons, List.not_mem_nil, false_implies, implies_true, and_true,
    ← not_or, V4.contains_iff_lead, lead, UInt8.reduceToNat, Nat.reduceLeDiff, Nat.reduceSub,
    Nat.reducePow, Nat.reduceMul, Nat.reduceAdd, Nat.reduceDiv]
  refine not_congr ⟨?_, ?_⟩
  · rintro (h | h | h | h | h | h | h | h) <;> omega
  · rintro (h | h | h | h | h | h | h | h | h) <;> omega

/-! ## IPv6 -/

theorem readsAs_mappedBlock :
    ReadsAs mappedBlock ⟨.v6 ⟨0, 0, 0, 0, 0, 0xFFFF, 0, 0⟩, some 96⟩ := by
  unfold ReadsAs mappedBlock
  decide +kernel

theorem readsAs_reservedGroups : List.Forall₂ ReadsAs reservedGroups
    [⟨.v6 ⟨0, 0, 0, 0, 0, 0, 0, 0⟩, some 128⟩, ⟨.v6 ⟨0, 0, 0, 0, 0, 0, 0, 1⟩, some 128⟩,
      ⟨.v6 ⟨0xFC00, 0, 0, 0, 0, 0, 0, 0⟩, some 7⟩, ⟨.v6 ⟨0xFE80, 0, 0, 0, 0, 0, 0, 0⟩, some 10⟩,
      ⟨.v6 ⟨0xFF00, 0, 0, 0, 0, 0, 0, 0⟩, some 8⟩] := by
  unfold reservedGroups ReadsAs
  decide +kernel

/-- The block of the mapped addresses holds just those that have an IPv4 address in them. -/
theorem V6.inBlock_mapped_iff (x : V6) :
    (Address.v6 x).inBlock mappedBlock = true ↔ x.mapped? = some x.low := by
  have h6 := x.g6.toNat_lt
  have h7 := x.g7.toNat_lt
  have h5 := x.g5.toNat_lt
  rw [inBlock_eq_contains readsAs_mappedBlock, contains_iff_div (by rfl), V6.toNat_eq, V6.toNat_eq]
  simp only [Address.family, Family.width, mapped?, low, Option.ite_none_right_eq_some, and_true,
    ← UInt16.toNat_inj, UInt16.reduceToNat]
  omega

theorem V6.isPublic_iff_of_mapped {x : V6} (h : x.mapped? = none) : x.isPublic = true ↔
    ¬ ((x.g0.toNat = 0 ∧ x.g1.toNat = 0 ∧ x.g2.toNat = 0 ∧ x.g3.toNat = 0 ∧ x.g4.toNat = 0 ∧
        x.g5.toNat = 0 ∧ x.g6.toNat = 0 ∧ x.g7.toNat ≤ 1) ∨
      (0xFC00 ≤ x.g0.toNat ∧ x.g0.toNat < 0xFE00) ∨
      (0xFE80 ≤ x.g0.toNat ∧ x.g0.toNat < 0xFEC0) ∨ 0xFF00 ≤ x.g0.toNat) := by
  rw [isPublic, h]
  simp only [Bool.not_eq_true', ← Bool.not_eq_true, Bool.or_eq_true, Bool.and_eq_true,
    beq_iff_eq, decide_eq_true_eq, ← UInt16.toNat_inj, UInt16.le_iff_toNat_le,
    UInt16.lt_iff_toNat_lt, UInt16.reduceToNat, or_assoc, and_assoc]

theorem V6.isPublic_iff_outside {x : V6} (h : x.mapped? = none) : (Address.v6 x).isPublic = true ↔
    ∀ block ∈ reservedGroups, (Address.v6 x).inBlock block = false := by
  have h0 : x.g0.toNat < 65536 := x.g0.toNat_lt
  rw [outside_iff readsAs_reservedGroups, Address.isPublic, V6.isPublic_iff_of_mapped h]
  simp only [List.forall_mem_cons, List.not_mem_nil, false_implies, implies_true, and_true,
    ← not_or, V6.contains_iff_toNat, V6.toNat_eq, V6.contains_iff_lead, lead, UInt16.reduceToNat,
    Nat.reduceLeDiff, Nat.reduceSub, Nat.reducePow, Nat.reduceMul, Nat.reduceAdd, Nat.reduceDiv]
  refine not_congr ⟨?_, ?_⟩
  · rintro (h | h | h | h) <;> omega
  · rintro (h | h | h | h | h) <;> omega

/-! ## Agreement -/

/-- An IPv4 address is public exactly if it lies outside all the reserved blocks.  An IPv6 address
in the block of the mapped addresses is as public as the IPv4 address in its low 32 bits, and any
other is public exactly if it lies outside the reserved blocks of its family. -/
theorem isPublic_agrees_with_blocks :
    (∀ x : V4, (Address.v4 x).isPublic = true ↔
      ∀ block ∈ reservedQuads, (Address.v4 x).inBlock block = false) ∧
    ∀ x : V6, (Address.v4 x.low).toNat = (Address.v6 x).toNat % 2 ^ 32 ∧
      ((Address.v6 x).inBlock mappedBlock = true →
        (Address.v6 x).isPublic = (Address.v4 x.low).isPublic) ∧
      ((Address.v6 x).inBlock mappedBlock = false →
        ((Address.v6 x).isPublic = true ↔
          ∀ block ∈ reservedGroups, (Address.v6 x).inBlock block = false)) := by
  refine ⟨V4.isPublic_iff_outside, fun x => ⟨x.toNat_low, fun hmapped => ?_, fun hother => ?_⟩⟩
  · rw [V6.inBlock_mapped_iff] at hmapped
    have hpublic : x.isPublic = x.low.isPublic := by
      unfold V6.isPublic
      rw [hmapped]
    exact hpublic
  · apply V6.isPublic_iff_outside
    cases hmapped : x.mapped? with
    | none => rfl
    | some y =>
      have hlow : y = x.low := by
        rw [V6.mapped?, Option.ite_none_right_eq_some] at hmapped
        exact (Option.some.inj hmapped.2).symm
      rw [hlow, ← V6.inBlock_mapped_iff, hother] at hmapped
      cases hmapped

/-- The last address of a reserved block in its mapped form, and the first one behind a reserved
block. -/
theorem isPublic_agrees_with_blocks_edges :
    (Address.v6 ⟨0, 0, 0, 0, 0, 0xFFFF, 0xAC1F, 0xFFFF⟩).isPublic = false ∧
      ∀ block ∈ reservedGroups,
        (Address.v6 ⟨0xFEC0, 0, 0, 0, 0, 0, 0, 0⟩).inBlock block = false := by
  obtain ⟨hquads, hgroups⟩ := isPublic_agrees_with_blocks
  obtain ⟨-, hmapped, -⟩ := hgroups ⟨0, 0, 0, 0, 0, 0xFFFF, 0xAC1F, 0xFFFF⟩
  obtain ⟨-, -, hother⟩ := hgroups ⟨0xFEC0, 0, 0, 0, 0, 0, 0, 0⟩
  refine ⟨?_, (hother (by decide +kernel)).1 (by decide)⟩
  rw [hmapped (by decide +kernel), ← Bool.not_eq_true, hquads]
  decide +kernel

end SpamVerdict.Ip
