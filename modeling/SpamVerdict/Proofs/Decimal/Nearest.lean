import SpamVerdict.Proofs.Decimal.Finite
set_option autoImplicit false

/-!
# The value nearest to a whole number

A whole number between two powers of two is rounded to a value between the same powers
(`nearest_one_eq`), so whole numbers of up to a thousand bits are finite, and a number of at least
two stays one.  The powers of ten that scale the numbers of a peer (SPEC_FULL §6) are such numbers.
-/

namespace SpamVerdict.Decimal

open Float.Model (Format UnpackedFloat)
open Float.Model.UnpackedFloat

/-! ## Magnitudes -/

section Magnitude

variable {negative : Bool} {magnitude : Nat}

theorem infinityMagnitude_eq : infinityMagnitude = 2047 * 2 ^ 52 := rfl

/-- The 64 bits of a sign and a magnitude. -/
def bitsOf (negative : Bool) (magnitude : Nat) : UInt64 :=
  UInt64.ofNat (if negative then Nat.pow 2 63 + magnitude else magnitude)

theorem exponentField_bitsOf (hle : magnitude ≤ infinityMagnitude) :
    exponentField (bitsOf negative magnitude).toBitVec = magnitude / 2 ^ 52 := by
  rw [infinityMagnitude_eq] at hle
  have hbits : (bitsOf negative magnitude).toNat =
      if negative then 2 ^ 63 + magnitude else magnitude := by
    refine UInt64.toNat_ofNat_of_lt' ?_
    cases negative <;> simp [UInt64.size] <;> omega
  rw [exponentField_eq, UInt64.toNat_toBitVec, hbits]
  cases negative <;> simp <;> omega

theorem isFinite_ofBits {b : UInt64} (hb : (unpack .binary64 b.toBitVec).isFinite = true) :
    (Float.ofBits b).isFinite = true := by
  change (unpack .binary64 (pack .binary64 (unpack .binary64 b.toBitVec))).isFinite = true
  cases hu : unpack .binary64 b.toBitVec with
  | zero s => cases s <;> rfl
  | finite s m e hm => exact isFinite_pack (bounds_of_unpack hu).2
  | infinity s => rw [hu] at hb; cases hb
  | notANumber => rw [hu] at hb; cases hb

theorem isFinite_ofMagnitude (hlt : magnitude < infinityMagnitude) :
    (ofMagnitude negative magnitude).isFinite = true := by
  refine isFinite_ofBits (b := bitsOf negative magnitude) ?_
  rw [isFinite_unpack_iff, exponentField_bitsOf (Nat.le_of_lt hlt)]
  rw [infinityMagnitude_eq] at hlt
  omega

theorem isNaN_eq_false_of_isFinite {x : Float} (hx : x.isFinite = true) : x.isNaN = false := by
  change x.toModel.unpack.isNaN = false
  obtain ⟨s, hu⟩ | ⟨s, m, e, hm, hu, -⟩ := isFinite_iff.1 hx <;> rw [hu] <;> rfl

theorem isNaN_ofMagnitude (hle : magnitude ≤ infinityMagnitude) :
    (ofMagnitude negative magnitude).isNaN = false := by
  obtain hlt | rfl := Nat.lt_or_eq_of_le hle
  · exact isNaN_eq_false_of_isFinite (isFinite_ofMagnitude hlt)
  · cases negative <;> rfl

theorem atLeastTwo_ofMagnitude (hlow : 1024 * 2 ^ 52 ≤ magnitude)
    (hle : magnitude ≤ infinityMagnitude) : AtLeastTwo (ofMagnitude negative magnitude) := by
  obtain hlt | rfl := Nat.lt_or_eq_of_le hle
  · have hfield : exponentField (bitsOf negative magnitude).toBitVec = magnitude / 2 ^ 52 :=
      exponentField_bitsOf hle
    rw [infinityMagnitude_eq] at hlt
    obtain ⟨s, m, hm, hu, hmlow, hmhigh⟩ :=
      unpack_of_normal (b := (bitsOf negative magnitude).toBitVec) (by omega) (by omega)
    have hrepacked : exponentField (pack .binary64 (.finite s m
        (exponentField (bitsOf negative magnitude).toBitVec - 1075) hm)) = _ :=
      exponentField_pack_of_normal hmlow hmhigh (by omega)
    rw [← hu] at hrepacked
    obtain ⟨s', m', hm', hu', hmlow', hmhigh'⟩ := unpack_of_normal
      (b := pack .binary64 (unpack .binary64 (bitsOf negative magnitude).toBitVec))
      (by omega) (by omega)
    have hlog : m'.log2 = 52 := (Nat.log2_eq_iff (Nat.ne_of_gt hm')).2 ⟨hmlow', hmhigh'⟩
    exact .inr ⟨s', m', _, hm', hu', by omega⟩
  · cases negative
    · exact .inl ⟨.positive, rfl⟩
    · exact .inl ⟨.negative, rfl⟩

end Magnitude

/-! ## Whole numbers -/

theorem roundDiv_bounds (n d : Nat) : n / d ≤ roundDiv n d ∧ roundDiv n d ≤ n / d + 1 := by
  unfold roundDiv
  dsimp only
  split <;> omega

theorem scaled_le {n l k : Nat} {e : Int} (hn : 2 ^ l ≤ n) (hk : k + e ≤ l) :
    2 ^ k * 2 ^ e.toNat ≤ n * 2 ^ (-e).toNat := by
  calc 2 ^ k * 2 ^ e.toNat = 2 ^ (k + e.toNat) := (Nat.pow_add 2 k e.toNat).symm
    _ ≤ 2 ^ (l + (-e).toNat) := Nat.pow_le_pow_right (by decide) (by omega)
    _ = 2 ^ l * 2 ^ (-e).toNat := Nat.pow_add 2 l (-e).toNat
    _ ≤ n * 2 ^ (-e).toNat := Nat.mul_le_mul_right _ hn

theorem lt_scaled {n l k : Nat} {e : Int} (hn : n < 2 ^ l) (hk : l ≤ k + e) :
    n * 2 ^ (-e).toNat < 2 ^ k * 2 ^ e.toNat := by
  calc n * 2 ^ (-e).toNat < 2 ^ l * 2 ^ (-e).toNat :=
        Nat.mul_lt_mul_of_pos_right hn (Nat.two_pow_pos _)
    _ = 2 ^ (l + (-e).toNat) := (Nat.pow_add 2 l (-e).toNat).symm
    _ ≤ 2 ^ (k + e.toNat) := Nat.pow_le_pow_right (by decide) (by omega)
    _ = 2 ^ k * 2 ^ e.toNat := Nat.pow_add 2 k e.toNat

/-- A number is scaled to 53 bits and rounded, which may carry into one more. -/
theorem nearest_one_eq (negative : Bool) {n : Nat} (hn : n ≠ 0) :
    ∃ fraction ≤ 2 ^ 52, nearest negative n 1 =
      ofMagnitude negative (min ((n.log2 + 1023) * 2 ^ 52 + fraction) infinityMagnitude) := by
  have hlow : 2 ^ n.log2 ≤ n := Nat.log2_self_le hn
  have hhigh : n < 2 ^ (n.log2 + 1) := Nat.lt_log2_self
  have hone : Nat.log2 1 = 0 := by decide
  have hguess : max ((n.log2 : Int) - (0 : Nat) - 53) (-1074) = (n.log2 : Int) - 53 := by omega
  have hfits := Nat.not_lt.2 (scaled_le (k := 53) (e := (n.log2 : Int) - 53) hlow (by omega))
  have hnext : (n.log2 : Int) - 53 + 1 = n.log2 - 52 := by omega
  obtain ⟨up, hup⟩ : ∃ up, up = n * 2 ^ (-((n.log2 : Int) - 52)).toNat := ⟨_, rfl⟩
  obtain ⟨down, hdown⟩ : ∃ down, down = 2 ^ ((n.log2 : Int) - 52).toNat := ⟨_, rfl⟩
  have hpos : 0 < down := hdown ▸ Nat.two_pow_pos _
  have hnearest : nearest negative n 1 = ofMagnitude negative
      (min (((n.log2 : Int) - 52 + 1074).toNat * 2 ^ 52 + roundDiv up down)
        infinityMagnitude) := by
    rw [nearest, if_neg hn]
    simp only [hone, Nat.pow_eq, hguess, decide_eq_true_eq, Nat.one_mul]
    rw [if_neg hfits, hnext, hup, hdown]
  have hquotient : 2 ^ 52 ≤ up / down := by
    rw [Nat.le_div_iff_mul_le hpos, hup, hdown]
    exact scaled_le hlow (by omega)
  have hquotient' : up / down < 2 ^ 53 := by
    rw [Nat.div_lt_iff_lt_mul hpos, hup, hdown]
    exact lt_scaled hhigh (by omega)
  have hrounded := roundDiv_bounds up down
  refine ⟨roundDiv up down - 2 ^ 52, ?_, ?_⟩
  · omega
  · have hmagnitude : ((n.log2 : Int) - 52 + 1074).toNat * 2 ^ 52 + roundDiv up down =
        (n.log2 + 1023) * 2 ^ 52 + (roundDiv up down - 2 ^ 52) := by
      clear hnearest hfits
      omega
    rw [hnearest, hmagnitude]

theorem isFinite_ofInt {n : Int} (hn : n.natAbs < 2 ^ 64) : (ofInt n).isFinite = true := by
  by_cases h0 : n.natAbs = 0
  · rw [ofInt, h0]
    exact isFinite_ofMagnitude (by decide)
  · obtain ⟨fraction, hfraction, hnearest⟩ := nearest_one_eq (n < 0) h0
    have hlog : n.natAbs.log2 < 64 := (Nat.log2_lt h0).2 hn
    rw [ofInt, hnearest]
    refine isFinite_ofMagnitude ?_
    rw [infinityMagnitude_eq]
    omega

theorem atLeastTwo_nearest (negative : Bool) {n : Nat} (hn : 2 ≤ n) :
    AtLeastTwo (nearest negative n 1) := by
  obtain ⟨fraction, -, hnearest⟩ := nearest_one_eq negative (n := n) (by omega)
  have hlog : 1 ≤ n.log2 := (Nat.le_log2 (by omega)).2 hn
  rw [hnearest]
  exact atLeastTwo_ofMagnitude (Nat.le_min.2 ⟨by omega, by decide⟩) (Nat.min_le_right _ _)

/-! ## Numerals -/

theorem isNaN_nearest (negative : Bool) (numerator denominator : Nat) :
    (nearest negative numerator denominator).isNaN = false := by
  unfold nearest
  split
  · exact isNaN_ofMagnitude (Nat.zero_le _)
  · exact isNaN_ofMagnitude (Nat.min_le_right _ _)

theorem isNaN_nearestDecimal (negative : Bool) (coefficient : Nat) (exponent : Int) :
    (nearestDecimal negative coefficient exponent).isNaN = false := by
  unfold nearestDecimal
  dsimp only
  split
  · exact isNaN_ofMagnitude (Nat.zero_le _)
  · split
    · exact isNaN_ofMagnitude (Nat.le_refl _)
    · exact isNaN_nearest _ _ _

/-- A power of ten is at least two, be it too large to be finite. -/
theorem atLeastTwo_tenTo {n : Nat} (hn : 0 < n) : AtLeastTwo (nearestDecimal false 1 n) := by
  have hten : 10 ^ 1 ≤ 10 ^ n := Nat.pow_le_pow_right (by decide) hn
  unfold nearestDecimal
  simp only [Nat.pow_eq, Int.toNat_natCast, Int.toNat_neg_natCast, Nat.one_mul, Nat.pow_zero]
  split
  · next h => simp at h; omega
  · split
    · exact atLeastTwo_ofMagnitude (by decide) (Nat.le_refl _)
    · exact atLeastTwo_nearest false (by omega)

end SpamVerdict.Decimal
