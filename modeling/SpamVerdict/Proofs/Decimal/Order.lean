import Mathlib
set_option autoImplicit false

/-!
# The order of floating-point values (SPEC_FULL §14.5)

A number is placed by its kind, from minus infinity over the negative values, zero and the positive
ones to infinity, then by its exponent and then by its mantissa, both with its sign (`place`).
Numbers compare as their places do, so their order is the linear one of places.

The two zeros have one place, so numbers with the same place are equal as numbers and need not be
the same; the highest score of SPEC_FULL §14.5 is one of them.
-/

namespace SpamVerdict.Decimal

open Float.Model (UnpackedFloat)
open Float.Model.UnpackedFloat (Sign)

/-- The place of a number among all numbers. -/
def place : UnpackedFloat → ℤ ×ₗ ℤ ×ₗ ℤ
  | .infinity s => toLex (s.apply 2, toLex (0, 0))
  | .finite s m e _ => toLex (s.apply 1, toLex (s.apply e, s.apply m))
  | .zero _ | .notANumber => toLex (0, toLex (0, 0))

theorem compare_neg_neg (m n : ℤ) : compare (-m) (-n) = (compare m n).swap := by
  rw [Int.compare_swap]
  cases h : compare n m with
  | lt => exact compare_lt_iff_lt.2 (Int.neg_lt_neg (compare_lt_iff_lt.1 h))
  | eq => exact compare_eq_iff_eq.2 (congrArg _ (compare_eq_iff_eq.1 h).symm)
  | gt => exact compare_gt_iff_gt.2 (Int.neg_lt_neg (compare_gt_iff_gt.1 h))

theorem compare_natCast (m n : ℕ) : compare (m : ℤ) n = compare m n := by
  cases h : compare m n with
  | lt => exact compare_lt_iff_lt.2 (Int.ofNat_lt.2 (compare_lt_iff_lt.1 h))
  | eq => exact compare_eq_iff_eq.2 (congrArg _ (compare_eq_iff_eq.1 h))
  | gt => exact compare_gt_iff_gt.2 (Int.ofNat_lt.2 (compare_gt_iff_gt.1 h))

/-- Numbers compare as their places do. -/
theorem compare_eq_place {a b : UnpackedFloat} (ha : a.isNaN = false) (hb : b.isNaN = false) :
    a.compare b = some (compare (place a) (place b)) := by
  -- The kinds and signs settle all but two finite values of one sign.
  obtain ⟨_ | _⟩ | _ | ⟨_ | _⟩ | ⟨_ | _, m, e, hm⟩ := a <;>
    obtain ⟨_ | _⟩ | _ | ⟨_ | _⟩ | ⟨_ | _, m', e', hm'⟩ := b <;>
    first | rfl | cases ha; done | cases hb; done | skip
  case finite.negative.finite.negative =>
    simp only [UnpackedFloat.compare, place, Sign.apply, Prod.Lex.compare_def, compareLex,
      compareOn, ofLex_toLex, compare_neg_neg, compare_natCast, Ordering.swap_then]
    rfl
  case finite.positive.finite.positive =>
    simp only [UnpackedFloat.compare, place, Sign.apply, Prod.Lex.compare_def, compareLex,
      compareOn, ofLex_toLex, compare_natCast]
    rfl

section Order

variable {x y z : Float}

theorem le_iff_place (hx : x.isNaN = false) (hy : y.isNaN = false) :
    x ≤ y ↔ place x.toModel.unpack ≤ place y.toModel.unpack := by
  have hle : x ≤ y ↔ (x.toModel.unpack.compare y.toModel.unpack).any (fun o => o.isLE) = true :=
    decide_eq_true_iff
  rw [hle, compare_eq_place hx hy, Option.any_some, Ordering.isLE_iff_ne_gt]
  exact compare_le_iff_le

theorem lt_iff_place (hx : x.isNaN = false) (hy : y.isNaN = false) :
    x < y ↔ place x.toModel.unpack < place y.toModel.unpack := by
  have hlt : x < y ↔ (x.toModel.unpack.compare y.toModel.unpack == some .lt) = true :=
    decide_eq_true_iff
  rw [hlt, compare_eq_place hx hy, beq_iff_eq, Option.some.injEq, compare_lt_iff_lt]

theorem le_self (hx : x.isNaN = false) : x ≤ x :=
  (le_iff_place hx hx).2 le_rfl

theorem le_trans_of_number (hx : x.isNaN = false) (hy : y.isNaN = false) (hz : z.isNaN = false)
    (hxy : x ≤ y) (hyz : y ≤ z) : x ≤ z := by
  rw [le_iff_place hx hy] at hxy
  rw [le_iff_place hy hz] at hyz
  exact (le_iff_place hx hz).2 (hxy.trans hyz)

theorem le_of_lt_of_number (hx : x.isNaN = false) (hy : y.isNaN = false) (hxy : x < y) : x ≤ y :=
  (le_iff_place hx hy).2 ((lt_iff_place hx hy).1 hxy).le

/-- The order of numbers is total. -/
theorem le_of_not_lt (hx : x.isNaN = false) (hy : y.isNaN = false) (hxy : ¬ x < y) : y ≤ x := by
  rw [lt_iff_place hx hy, not_lt] at hxy
  exact (le_iff_place hy hx).2 hxy

theorem lt_iff_not_le (hx : x.isNaN = false) (hy : y.isNaN = false) : x < y ↔ ¬ y ≤ x := by
  rw [lt_iff_place hx hy, le_iff_place hy hx, not_le]

/-- Numbers that are equally high are equal, though one zero may be negative. -/
theorem beq_of_le_of_le (hx : x.isNaN = false) (hy : y.isNaN = false) (hxy : x ≤ y)
    (hyx : y ≤ x) : (x == y) = true := by
  rw [le_iff_place hx hy] at hxy
  rw [le_iff_place hy hx] at hyx
  have hbeq : (x == y) = (x.toModel.unpack.compare y.toModel.unpack == some .eq) := rfl
  rw [hbeq, compare_eq_place hx hy, beq_iff_eq, Option.some.injEq, compare_eq_iff_eq]
  exact le_antisymm hxy hyx

end Order

end SpamVerdict.Decimal
