import SpamVerdict.Ip.Block
import Mathlib.Data.Nat.Digits.Defs
set_option autoImplicit false

/-!
# Leading bits in common (SPEC_FULL §4.4)

The comparison of two addresses goes octet by octet and then masks the octet in which the shared
part ends.  Read as numbers in base 256, the octets share their leading bits exactly if the numbers
have the same quotient by the weight of the last shared bit (`shareBits_iff`).  And the comparison
never leaves its octets: with every slice, index and shift checked, it has the same result
(`shareBits?_eq`).

The mask is the one that SPEC_FULL §4.4 writes down, `0xFF << (8 - remaining_bits)`, in eight bits.
-/

namespace SpamVerdict.Ip

/-! ## Octets as digits -/

/-- The number that octets spell in base 256, most significant first. -/
def numberOf (octets : List UInt8) : Nat := octets.foldl (fun n o => 256 * n + o.toNat) 0

theorem Address.toNat_eq_numberOf (x : Address) : x.toNat = numberOf x.octets := rfl

theorem numberOf_append_singleton (octets : List UInt8) (o : UInt8) :
    numberOf (octets ++ [o]) = 256 * numberOf octets + o.toNat := by
  simp only [numberOf, List.foldl_append, List.foldl_cons, List.foldl_nil]

theorem numberOf_eq_ofDigits (octets : List UInt8) :
    numberOf octets = Nat.ofDigits 256 (octets.map UInt8.toNat).reverse := by
  rw [Nat.ofDigits_eq_foldr, List.foldr_reverse, List.foldl_map, numberOf]
  simp only [Nat.cast_id, Nat.add_comm]

theorem lt_of_mem_digits {octets : List UInt8} :
    ∀ n ∈ (octets.map UInt8.toNat).reverse, n < 256 := by
  intro n hn
  obtain ⟨o, -, rfl⟩ := List.mem_map.1 (List.mem_reverse.1 hn)
  exact o.toNat_lt

theorem numberOf_inj {xs ys : List UInt8} (hlength : xs.length = ys.length) :
    numberOf xs = numberOf ys ↔ xs = ys := by
  refine ⟨fun h => ?_, congrArg numberOf⟩
  rw [numberOf_eq_ofDigits, numberOf_eq_ofDigits] at h
  have hdigits := Nat.ofDigits_inj_of_len_eq (by decide) (by simp [hlength]) lt_of_mem_digits
    lt_of_mem_digits h
  exact (List.map_inj_right fun _ _ => UInt8.toNat_inj.1).1 (List.reverse_inj.1 hdigits)

/-- A shift by whole octets drops them. -/
theorem numberOf_div_whole {xs : List UInt8} {whole : Nat} (hwhole : whole ≤ xs.length) :
    numberOf xs / 2 ^ (8 * (xs.length - whole)) = numberOf (xs.take whole) := by
  have hdrop : (xs.map UInt8.toNat).reverse.drop (xs.length - whole) =
      ((xs.take whole).map UInt8.toNat).reverse := by
    rw [List.drop_reverse, List.length_map, Nat.sub_sub_self hwhole, List.map_take]
  rw [Nat.pow_mul, numberOf_eq_ofDigits, numberOf_eq_ofDigits,
    Nat.ofDigits_div_pow_eq_ofDigits_drop _ (by decide) _ lt_of_mem_digits, hdrop]

/-- A shift that ends inside an octet keeps the high bits of it. -/
theorem numberOf_div_partial {xs : List UInt8} {whole bits : Nat} {o : UInt8}
    (ho : xs[whole]? = some o) (hbits : bits ≤ 8) :
    numberOf xs / 2 ^ (8 * xs.length - (8 * whole + bits)) =
      2 ^ bits * numberOf (xs.take whole) + o.toNat / 2 ^ (8 - bits) := by
  have hwhole : whole + 1 ≤ xs.length := (List.getElem?_eq_some_iff.1 ho).1
  have hshift : 8 * xs.length - (8 * whole + bits) =
      8 * (xs.length - (whole + 1)) + (8 - bits) := by
    omega
  have hbase : 256 = 2 ^ (8 - bits) * 2 ^ bits := by
    rw [← Nat.pow_add, Nat.sub_add_cancel hbits]
  have htake : xs.take (whole + 1) = xs.take whole ++ [o] := by
    rw [List.take_add_one, ho, Option.toList_some]
  rw [hshift, Nat.pow_add, ← Nat.div_div_eq_div_mul, numberOf_div_whole hwhole, htake,
    numberOf_append_singleton, hbase, Nat.mul_assoc, Nat.mul_add_div (Nat.two_pow_pos _)]

/-! ## Bits in common -/

theorem toBitVec_mask : ∀ k < 8,
    ((0xFF : UInt8) <<< UInt8.ofNat k).toBitVec = BitVec.allOnes 8 <<< k := by
  decide

/-- A mask keeps the high bits of an octet. -/
theorem toNat_and_mask (o : UInt8) {k : Nat} (hk : k < 8) :
    (o &&& ((0xFF : UInt8) <<< UInt8.ofNat k)).toNat = 2 ^ k * (o.toNat / 2 ^ k) := by
  have hmask : (o &&& ((0xFF : UInt8) <<< UInt8.ofNat k)).toBitVec = o.toBitVec >>> k <<< k := by
    rw [BitVec.shiftLeft_ushiftRight, UInt8.toBitVec_and, toBitVec_mask k hk]
  have hlt : o.toNat / 2 ^ k * 2 ^ k < 2 ^ 8 :=
    Nat.lt_of_le_of_lt (Nat.div_mul_le_self _ _) o.toNat_lt
  rw [← UInt8.toNat_toBitVec, hmask, BitVec.toNat_shiftLeft, BitVec.toNat_ushiftRight,
    UInt8.toNat_toBitVec, Nat.shiftRight_eq_div_pow, Nat.shiftLeft_eq, Nat.mod_eq_of_lt hlt,
    Nat.mul_comm]

theorem highBits?_eq {octets : List UInt8} {position bits : Nat} {o : UInt8}
    (ho : octets[position]? = some o) (hbits : 0 < bits) :
    highBits? octets position bits =
      some (o &&& ((0xFF : UInt8) <<< UInt8.ofNat (8 - bits))) := by
  rw [highBits?, if_pos (by omega), ho, Option.map_some]

theorem highBits?_eq_iff {xs ys : List UInt8} {position bits : Nat} {o o' : UInt8}
    (ho : xs[position]? = some o) (ho' : ys[position]? = some o') (hbits : 0 < bits) :
    highBits? xs position bits = highBits? ys position bits ↔
      o.toNat / 2 ^ (8 - bits) = o'.toNat / 2 ^ (8 - bits) := by
  have hk : 8 - bits < 8 := by omega
  rw [highBits?_eq ho hbits, highBits?_eq ho' hbits, Option.some_inj, ← UInt8.toNat_inj,
    toNat_and_mask o hk, toNat_and_mask o' hk, Nat.mul_right_inj (Nat.two_pow_pos _).ne']

/-- Two numbers in mixed digits are the same exactly if their digits are. -/
theorem mul_add_inj {b h h' l l' : Nat} (hl : l < b) (hl' : l' < b) :
    b * h + l = b * h' + l' ↔ h = h' ∧ l = l' := by
  refine ⟨fun heq => ?_, fun ⟨hh, hll⟩ => by rw [hh, hll]⟩
  have hdiv := congrArg (· / b) heq
  have hb : 0 < b := Nat.lt_of_le_of_lt (Nat.zero_le l) hl
  simp only [Nat.mul_add_div hb, Nat.div_eq_of_lt hl, Nat.div_eq_of_lt hl', Nat.add_zero] at hdiv
  rw [hdiv] at heq
  exact ⟨hdiv, Nat.add_left_cancel heq⟩

theorem high_lt (o : UInt8) {bits : Nat} (hbits : bits ≤ 8) :
    o.toNat / 2 ^ (8 - bits) < 2 ^ bits := by
  apply Nat.div_lt_of_lt_mul
  rw [← Nat.pow_add, Nat.sub_add_cancel hbits]
  exact o.toNat_lt

/-- Octets share their leading bits exactly if the numbers do that they spell. -/
theorem shareBits_iff {xs ys : List UInt8} (hlength : xs.length = ys.length) (length : Nat) :
    shareBits xs ys length = true ↔ length ≤ 8 * xs.length ∧
      numberOf xs / 2 ^ (8 * xs.length - length) = numberOf ys / 2 ^ (8 * xs.length - length) := by
  obtain ⟨whole, bits, hbits, rfl⟩ : ∃ whole bits, bits < 8 ∧ length = 8 * whole + bits :=
    ⟨length / 8, length % 8, Nat.mod_lt _ (by decide), (Nat.div_add_mod length 8).symm⟩
  have hdiv : (8 * whole + bits) / 8 = whole := by omega
  have hmod : (8 * whole + bits) % 8 = bits := by omega
  have htake : (xs.take whole).length = (ys.take whole).length := by
    rw [List.length_take, List.length_take, hlength]
  simp only [shareBits, hdiv, hmod, Bool.and_eq_true, Bool.or_eq_true, decide_eq_true_eq,
    beq_iff_eq, and_assoc]
  refine and_congr_right fun hle => ?_
  by_cases hzero : bits = 0
  · subst hzero
    have hwhole : whole ≤ xs.length := by omega
    have hshift : 8 * xs.length - (8 * whole + 0) = 8 * (xs.length - whole) := by omega
    rw [hshift, numberOf_div_whole hwhole, hlength, numberOf_div_whole (hlength ▸ hwhole),
      numberOf_inj htake]
    exact and_iff_left (.inl rfl)
  · have hwhole : whole < xs.length := by omega
    have ho := List.getElem?_eq_getElem hwhole
    have ho' := List.getElem?_eq_getElem (hlength ▸ hwhole)
    rw [numberOf_div_partial ho hbits.le, hlength, numberOf_div_partial ho' hbits.le,
      mul_add_inj (high_lt _ hbits.le) (high_lt _ hbits.le), numberOf_inj htake,
      highBits?_eq_iff ho ho' (Nat.pos_of_ne_zero hzero), or_iff_right hzero]

/-! ## In range -/

/-- The first `count` octets, where there are that many. -/
def slice? (octets : List UInt8) (count : Nat) : Option (List UInt8) :=
  if count ≤ octets.length then some (octets.take count) else none

/-- The comparison step by step, in which a slice past the end, an index past the end or a shift by
eight or more has no result. -/
def shareBits? (xs ys : List UInt8) (length : Nat) : Option Bool := do
  if 8 * xs.length < length then return false
  if (← slice? xs (length / 8)) ≠ (← slice? ys (length / 8)) then return false
  if length % 8 = 0 then return true
  return (← highBits? xs (length / 8) (length % 8)) == (← highBits? ys (length / 8) (length % 8))

theorem slice?_eq {octets : List UInt8} {count : Nat} (h : count ≤ octets.length) :
    slice? octets count = some (octets.take count) :=
  if_pos h

/-- The second list may be longer: what is compared of it is there. -/
theorem shareBits?_eq {xs ys : List UInt8} (h : xs.length ≤ ys.length) (length : Nat) :
    shareBits? xs ys length = some (shareBits xs ys length) := by
  unfold shareBits? shareBits
  by_cases hlong : 8 * xs.length < length
  · have hle : ¬ length ≤ 8 * xs.length := Nat.not_le.2 hlong
    simp [hlong, hle]
  · have hle : length ≤ 8 * xs.length := Nat.not_lt.1 hlong
    have hwhole : length / 8 ≤ xs.length := by omega
    have hslice := slice?_eq hwhole
    have hslice' := slice?_eq (hwhole.trans h)
    by_cases htake : xs.take (length / 8) = ys.take (length / 8)
    · by_cases hzero : length % 8 = 0
      · simp [hlong, hle, hslice, hslice', htake, hzero]
      · have hbits : 0 < length % 8 := Nat.pos_of_ne_zero hzero
        have hindex : length / 8 < xs.length := by omega
        have hhigh := highBits?_eq (List.getElem?_eq_getElem hindex) hbits
        have hhigh' := highBits?_eq (List.getElem?_eq_getElem (hindex.trans_le h)) hbits
        simp [hlong, hle, hslice, hslice', htake, hzero, beq_false_of_ne hzero, hhigh, hhigh']
    · simp [hlong, hle, hslice, hslice', htake]

end SpamVerdict.Ip
