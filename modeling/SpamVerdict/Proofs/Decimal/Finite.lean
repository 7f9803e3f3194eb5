import Mathlib
import SpamVerdict.Decimal.Binary
set_option autoImplicit false

/-!
# Finite floating-point values

An operation on `Float`s unpacks the bits of its arguments, works on signs, mantissas and
exponents, rounds, and packs the result.  A value is finite exactly if its exponent field is not
the highest one.

Each operation that a reader of numbers uses is followed through these stages, so that what is read
is known to be finite without a look at the number.  A score that comes from a peer (SPEC_FULL §6)
can then be compared with a threshold.
-/

namespace SpamVerdict.Decimal

open Float.Model (Format UnpackedFloat totalExponent)
open Float.Model.UnpackedFloat

/-! ## The exponent field -/

/-- The eleven bits of the exponent. -/
def exponentField (b : BitVec Format.binary64.numBits) : Nat :=
  (unpackExponent b).toNat

section Field

variable {b : BitVec Format.binary64.numBits}

theorem exponentField_eq (b : BitVec Format.binary64.numBits) :
    exponentField b = b.toNat / 2 ^ 52 % 2 ^ 11 := by
  simp only [exponentField, unpackExponent, BitVec.toNat_cast, BitVec.extractLsb_toNat,
    Nat.shiftRight_eq_div_pow]

theorem exponentField_packComponents (s : Sign) (e : BitVec Format.binary64.exponentBits)
    (m : BitVec Format.binary64.mantissaBitsWithoutImplicit) :
    exponentField (packComponents .binary64 s e m) = e.toNat := by
  rw [exponentField, unpackExponent_packComponents]

theorem unpackExponent_eq_iff {e : BitVec 11} :
    unpackExponent b = e ↔ exponentField b = e.toNat :=
  BitVec.toNat_inj.symm

theorem isFinite_unpack_iff : (unpack .binary64 b).isFinite = true ↔ exponentField b ≠ 2047 := by
  have hmax : unpackExponent b = -1#11 ↔ exponentField b = 2047 := unpackExponent_eq_iff
  rw [unpack, ne_eq, ← hmax]
  split
  · next h => exact iff_of_false (by split <;> nofun) (not_not_intro h)
  · next h =>
    refine iff_of_true ?_ h
    split
    · split <;> rfl
    · rfl

theorem unpack_of_normal (hlow : 0 < exponentField b) (hhigh : exponentField b < 2047) :
    ∃ s m hm, unpack .binary64 b = .finite s m ((exponentField b : Int) - 1075) hm ∧
      2 ^ 52 ≤ m ∧ m < 2 ^ 53 := by
  have hmax : unpackExponent b ≠ -1#11 := fun h => Nat.ne_of_lt hhigh (unpackExponent_eq_iff.1 h)
  have hzero : unpackExponent b ≠ 0#11 := fun h => Nat.ne_of_gt hlow (unpackExponent_eq_iff.1 h)
  have hmantissa : (unpackMantissa b).toNat < 2 ^ 52 := (unpackMantissa b).isLt
  have hvalue : (1#1 ++ unpackMantissa b).toNat = 2 ^ 52 + (unpackMantissa b).toNat := by
    rw [BitVec.toNat_append, ← Nat.shiftLeft_add_eq_or_of_lt hmantissa]
    rfl
  refine ⟨Sign.ofBitVec (unpackSign b), (1#1 ++ unpackMantissa b).toNat, by omega, ?_, by omega,
    by omega⟩
  rw [unpack, if_neg hmax, if_neg hzero]
  rfl

theorem unpack_of_subnormal (hfield : exponentField b = 0) :
    (∃ s, unpack .binary64 b = .zero s) ∨
      ∃ s m hm, unpack .binary64 b = .finite s m (-1074) hm ∧ m < 2 ^ 52 := by
  have hzero : unpackExponent b = 0#11 := unpackExponent_eq_iff.2 hfield
  have hmax : unpackExponent b ≠ -1#11 := by
    rw [hzero]
    decide
  have hmantissa : (unpackMantissa b).toNat < 2 ^ 52 := (unpackMantissa b).isLt
  rw [unpack, if_neg hmax, if_pos hzero]
  split
  · exact .inl ⟨_, rfl⟩
  · next h =>
    have hpos : 0 < (unpackMantissa b).toNat :=
      Nat.pos_of_ne_zero fun h0 => h (BitVec.eq_of_toNat_eq h0)
    refine .inr ⟨Sign.ofBitVec (unpackSign b), (unpackMantissa b).toNat, hpos, ?_, hmantissa⟩
    simp only [hzero]
    rfl

/-- The mantissa of a finite value has at most 53 bits, and its exponent is bounded. -/
theorem bounds_of_unpack {s : Sign} {m : Nat} {e : Int} {hm : 0 < m}
    (hunpack : unpack .binary64 b = .finite s m e hm) : m < 2 ^ 53 ∧ e ≤ 971 := by
  have hfinite : exponentField b ≠ 2047 := by
    rw [← isFinite_unpack_iff, hunpack]
    rfl
  have hfield : exponentField b < 2048 := (unpackExponent b).isLt
  by_cases hzero : exponentField b = 0
  · obtain ⟨s', hzero⟩ | ⟨s', m', hm', hsubnormal, hlt⟩ := unpack_of_subnormal hzero
    · cases hunpack.symm.trans hzero
    · cases hunpack.symm.trans hsubnormal
      omega
  · obtain ⟨s', m', hm', hnormal, -, hlt⟩ := unpack_of_normal (b := b) (by omega) (by omega)
    cases hunpack.symm.trans hnormal
    omega

end Field

/-! ## Packing -/

section Packing

variable {s : Sign} {m : Nat} {e : Int} {hm : 0 < m}

theorem pack_finite (he : e ≤ 971) :
    pack .binary64 (.finite s m e hm) =
      if m.log2 = 52 then
        packComponents .binary64 s (BitVec.ofNat 11 (e + 1075).toNat) (BitVec.ofNat 52 m)
      else packComponents .binary64 s 0#11 (BitVec.ofNat 52 m) := by
  have hbiased : (e + Format.binary64.exponentBias +
      Format.binary64.mantissaBitsWithoutImplicit).toNat = (e + 1075).toNat := by
    rw [Int.add_assoc]
    rfl
  have hfits : ¬ 2 ^ 11 ≤ (e + 1075).toNat + 1 := by omega
  have hbits : m.log2 + 1 = Format.binary64.mantissaBits ↔ m.log2 = 52 := Nat.add_left_inj
  simp only [pack, hbiased, hbits]
  rw [if_neg hfits]

theorem exponentField_pack_of_normal (hlow : 2 ^ 52 ≤ m) (hhigh : m < 2 ^ 53) (he : e ≤ 971) :
    exponentField (pack .binary64 (.finite s m e hm)) = (e + 1075).toNat := by
  have hlog : m.log2 = 52 := (Nat.log2_eq_iff (Nat.ne_of_gt hm)).2 ⟨hlow, hhigh⟩
  rw [pack_finite he, if_pos hlog, exponentField_packComponents, BitVec.toNat_ofNat]
  exact Nat.mod_eq_of_lt (b := 2 ^ 11) (by omega)

theorem isFinite_pack (he : e ≤ 971) :
    (unpack .binary64 (pack .binary64 (.finite s m e hm))).isFinite = true := by
  rw [isFinite_unpack_iff, pack_finite he]
  split
  · rw [exponentField_packComponents, BitVec.toNat_ofNat]
    exact Nat.ne_of_lt (Nat.lt_of_le_of_lt (Nat.mod_le _ _) (by omega))
  · rw [exponentField_packComponents]
    decide

/-- What is packed, other than "not a number", is finite or infinite. -/
theorem isFinite_of_isInf_eq_false {u : UnpackedFloat} (hu : u.isNaN = false)
    (hinf : (unpack .binary64 (pack .binary64 u)).isInf = false) :
    (unpack .binary64 (pack .binary64 u)).isFinite = true := by
  match u with
  | .notANumber => cases hu
  | .infinity s => cases s <;> cases hinf
  | .zero s => cases s <;> rfl
  | .finite s m e hm =>
    by_cases he : e ≤ 971
    · exact isFinite_pack he
    · have hover : 2 ^ 11 ≤ (e + Format.binary64.exponentBias +
          Format.binary64.mantissaBitsWithoutImplicit).toNat + 1 := by
        rw [Int.add_assoc]
        change 2 ^ 11 ≤ (e + 1075).toNat + 1
        omega
      rw [pack, if_pos hover] at hinf
      cases s <;> cases hinf

end Packing

/-! ## Logarithms -/

theorem log2_lt_of_lt {n k : Nat} (hk : 0 < k) (hn : n < 2 ^ k) : n.log2 < k := by
  by_cases h0 : n = 0
  · rwa [h0, Nat.log2_zero]
  · exact (Nat.log2_lt h0).2 hn

theorem log2_shiftLeft_le (m k : Nat) : (m <<< k).log2 ≤ m.log2 + k := by
  refine Nat.le_of_lt_succ (log2_lt_of_lt (Nat.succ_pos _) ?_)
  calc m <<< k = m * 2 ^ k := Nat.shiftLeft_eq m k
    _ < 2 ^ (m.log2 + 1) * 2 ^ k :=
      Nat.mul_lt_mul_of_pos_right Nat.lt_log2_self (Nat.two_pow_pos k)
    _ = 2 ^ (m.log2 + k + 1) := by rw [← Nat.pow_add, Nat.add_right_comm]

theorem log2_div_add_le {m n : Nat} (hn : n ≠ 0) (hmn : m / n ≠ 0) :
    (m / n).log2 + n.log2 ≤ m.log2 := by
  have hm : m ≠ 0 := fun h => hmn (by rw [h, Nat.zero_div])
  rw [Nat.le_log2 hm, Nat.pow_add]
  exact Nat.le_trans (Nat.mul_le_mul (Nat.log2_self_le hmn) (Nat.log2_self_le hn))
    (Nat.div_mul_le_self m n)

/-! ## Rounding -/

section Rounding

theorem mantissa_shiftRight (em : ExtendedMantissa) (n : Nat) :
    (em >>> n).mantissa = em.mantissa / 2 ^ n := by
  induction n with
  | zero => exact (Nat.div_one _).symm
  | succ n ih =>
    have hstep : (em >>> (n + 1)).mantissa = (em >>> n).mantissa / 2 := rfl
    rw [hstep, ih, Nat.div_div_eq_div_mul, Nat.pow_succ]

theorem roundedMantissa_le (em : ExtendedMantissa) :
    em.roundedMantissa ≤ em.mantissa + 1 := by
  obtain ⟨m, roundBit, stickyBit⟩ := em
  cases roundBit <;> cases stickyBit <;>
    simp only [ExtendedMantissa.roundedMantissa, ExtendedMantissa.accuracy,
      Accuracy.roundToNearestEven] <;> omega

theorem mantissa_ofMantissaAndAccuracy (m : Nat) (a : Accuracy) :
    (ExtendedMantissa.ofMantissaAndAccuracy m a).mantissa = m := by
  obtain _ | _ | _ | _ := a <;> rfl

theorem targetExponent_binary64 (total : Int) :
    Format.binary64.targetExponent total = max (total - 53) (-1074) := rfl

theorem shiftToTargetExponent_snd (m : Nat) (e : Int) (a : Accuracy) :
    (shiftToTargetExponent .binary64 m e a).2 = max e (max (m.log2 + e - 52) (-1074)) := by
  simp only [shiftToTargetExponent, shiftToExponent, targetExponent_binary64, totalExponent]
  omega

/-- Shifting leaves at most 53 bits. -/
theorem shiftToTargetExponent_fst_lt (m : Nat) (e : Int) (a : Accuracy) :
    (shiftToTargetExponent .binary64 m e a).1.mantissa < 2 ^ 53 := by
  simp only [shiftToTargetExponent, shiftToExponent, mantissa_shiftRight,
    mantissa_ofMantissaAndAccuracy, targetExponent_binary64, totalExponent]
  rw [Nat.div_lt_iff_lt_mul (Nat.two_pow_pos _), ← Nat.pow_add]
  calc m < 2 ^ (m.log2 + 1) := Nat.lt_log2_self
    _ ≤ _ := Nat.pow_le_pow_right (by decide) (by omega)

theorem isNaN_roundWithAccuracy {s : Sign} {m : Nat} {e : Int} {a : Accuracy} :
    (roundWithAccuracy .binary64 s m e a).isNaN = false := by
  unfold roundWithAccuracy
  dsimp only
  split <;> rfl

/-- What stays one binary place clear of the highest exponent is finite when it is rounded. -/
theorem isFinite_roundWithAccuracy {m : Nat} {e : Int} (s : Sign) (a : Accuracy) (he : e ≤ 970)
    (htotal : m.log2 + e ≤ 1022) :
    (unpack .binary64 (pack .binary64 (roundWithAccuracy .binary64 s m e a))).isFinite = true := by
  have hexponent := shiftToTargetExponent_snd m e a
  have hmantissa := shiftToTargetExponent_fst_lt m e a
  unfold roundWithAccuracy
  generalize shiftToTargetExponent .binary64 m e a = first at hexponent hmantissa
  obtain ⟨em, e₁⟩ := first
  dsimp only at hexponent hmantissa ⊢
  have hrounded : em.roundedMantissa.log2 < 54 := by
    have hle := roundedMantissa_le em
    exact log2_lt_of_lt (by decide) (by omega)
  have hexponent' := shiftToTargetExponent_snd em.roundedMantissa e₁ .exact
  generalize shiftToTargetExponent .binary64 em.roundedMantissa e₁ .exact = second at hexponent'
  split
  · cases s <;> rfl
  · exact isFinite_pack (by omega)

end Rounding

/-! ## Operations -/

section Operations

variable {x y : Float}

theorem isFinite_iff : x.isFinite = true ↔
    (∃ s, x.toModel.unpack = .zero s) ∨
      ∃ s m e hm, x.toModel.unpack = .finite s m e hm ∧ m < 2 ^ 53 ∧ e ≤ 971 := by
  have hunpack : x.isFinite = x.toModel.unpack.isFinite := rfl
  rw [hunpack]
  constructor
  · intro hx
    match hu : x.toModel.unpack with
    | .zero s => exact .inl ⟨s, rfl⟩
    | .finite s m e hm => exact .inr ⟨s, m, e, hm, rfl, bounds_of_unpack hu⟩
    | .infinity s => rw [hu] at hx; cases hx
    | .notANumber => rw [hu] at hx; cases hx
  · rintro (⟨s, hu⟩ | ⟨s, m, e, hm, hu, -⟩) <;> rw [hu] <;> rfl

/-- An operation packs what it has found. -/
theorem isFinite_ofModel_pack (u : UnpackedFloat) :
    (Float.ofModel (.pack u)).isFinite = (unpack .binary64 (pack .binary64 u)).isFinite := rfl

theorem isFinite_zero (s : Sign) : (Float.ofModel (.pack (.zero s))).isFinite = true := by
  cases s <;> rfl

theorem isFinite_toFloat (n : UInt64) : n.toFloat.isFinite = true := by
  have hn : n.toNat.log2 < 64 := log2_lt_of_lt (by decide) n.toNat_lt
  change (Float.ofModel (.pack (UnpackedFloat.normalize .binary64 (n.toNat : Int) 0
    .positive))).isFinite = true
  unfold UnpackedFloat.normalize
  split
  · next h => exact absurd (Int.compare_eq_lt.1 h) (by omega)
  · exact isFinite_zero _
  · have hshift := log2_shiftLeft_le n.toNat
      (0 - Format.binary64.targetExponent (totalExponent n.toNat 0)).toNat
    rw [isFinite_ofModel_pack]
    exact isFinite_roundWithAccuracy _ _ (by omega) (by simp only [Int.toNat_natCast]; omega)

theorem isFinite_neg (hx : x.isFinite = true) : (-x).isFinite = true := by
  change (Float.ofModel (.pack x.toModel.unpack.neg)).isFinite = true
  obtain ⟨s, hu⟩ | ⟨s, m, e, hm, hu, -, he⟩ := isFinite_iff.1 hx
  · rw [hu]
    exact isFinite_zero _
  · rw [hu]
    exact @isFinite_pack (-s) m e hm he

/-- The product of a finite value other than zero and a number is finite or infinite. -/
theorem isFinite_mul (hx : x.isFinite = true) (h0 : (x == UInt64.toFloat 0) = false)
    (hy : y.isNaN = false) (hxy : (x * y).isInf = false) : (x * y).isFinite = true := by
  refine isFinite_of_isInf_eq_false ?_ hxy
  change y.toModel.unpack.isNaN = false at hy
  obtain ⟨s, hu⟩ | ⟨s, m, e, hm, hu, -⟩ := isFinite_iff.1 hx
  · change x.toModel.unpack.beq (UInt64.toFloat 0).toModel.unpack = false at h0
    rw [hu] at h0
    cases h0
  · rw [hu]
    cases hu' : y.toModel.unpack with
    | notANumber =>
      rw [hu'] at hy
      cases hy
    | infinity s' => rfl
    | zero s' => rfl
    | finite s' m' e' hm' => exact isNaN_roundWithAccuracy

/-- A magnitude of at least two. -/
def AtLeastTwo (y : Float) : Prop :=
  (∃ s, y.toModel.unpack = .infinity s) ∨
    ∃ s m e hm, y.toModel.unpack = .finite s m e hm ∧ 1 ≤ m.log2 + e

theorem isFinite_div (hx : x.isFinite = true) (hy : AtLeastTwo y) : (x / y).isFinite = true := by
  change (Float.ofModel (.pack (.div .binary64 x.toModel.unpack y.toModel.unpack))).isFinite = true
  obtain ⟨s, hu⟩ | ⟨s, m, e, hm, hu, hlt, he⟩ := isFinite_iff.1 hx
  · obtain ⟨s', hu'⟩ | ⟨s', m', e', hm', hu', -⟩ := hy <;> rw [hu, hu'] <;> exact isFinite_zero _
  obtain ⟨s', hu'⟩ | ⟨s', m', e', hm', hu', hlarge⟩ := hy
  · rw [hu, hu']
    exact isFinite_zero _
  · have hlog : m.log2 < 53 := log2_lt_of_lt (by decide) hlt
    rw [hu, hu', isFinite_ofModel_pack]
    simp only [UnpackedFloat.div, divCore, targetExponent_binary64, totalExponent]
    generalize htarget : min (e - e') _ = target
    have hquotient := log2_div_add_le (m := m <<< (e - e' - target).toNat) (Nat.ne_of_gt hm')
    have hshift := log2_shiftLeft_le m (e - e' - target).toNat
    by_cases h0 : m <<< (e - e' - target).toNat / m' = 0
    · rw [h0]
      exact isFinite_roundWithAccuracy _ _ (by omega) (by rw [Nat.log2_zero]; omega)
    · have := hquotient h0
      exact isFinite_roundWithAccuracy _ _ (by omega) (by omega)

end Operations

end SpamVerdict.Decimal
