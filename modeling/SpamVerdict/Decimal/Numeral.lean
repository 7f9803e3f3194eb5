import SpamVerdict.Text.Blank
set_option autoImplicit false

/-!
# Decimal numerals

Whole numbers as ASCII digits.  A numeral has at least one digit; leading zeros are allowed.
`value_append_singleton` is the step of the positional system.

Octets and prefix lengths (SPEC_FULL §4.4), ticket numbers (§15) and settings (§13) are such
numerals, each with bounds of its own, which are checked where they are read.
-/

namespace SpamVerdict.Decimal

/-- The number that a list of decimal digits stands for. -/
def value (cs : List Char) : Nat :=
  cs.foldl (fun n c => 10 * n + (c.toNat - 48)) 0

@[simp] theorem value_nil : value [] = 0 := rfl

theorem value_append_singleton (cs : List Char) (c : Char) :
    value (cs ++ [c]) = 10 * value cs + (c.toNat - 48) := by
  simp [value]

/-- The digits of a number, without leading zeros. -/
def numeral (n : Nat) : List Char :=
  Nat.toDigits 10 n

/-- The number that a non-empty list of digits stands for. -/
def digits? (cs : List Char) : Option Nat :=
  if !cs.isEmpty && cs.all Char.isDigit then some (value cs) else none

theorem digits?_eq_some_iff {cs : List Char} {n : Nat} :
    digits? cs = some n ↔ cs ≠ [] ∧ (∀ c ∈ cs, c.isDigit = true) ∧ value cs = n := by
  simp only [digits?, Option.ite_none_right_eq_some, Bool.and_eq_true, Bool.not_eq_true',
    List.isEmpty_eq_false_iff, List.all_eq_true, Option.some.injEq, and_assoc]

/-- The number that an optional plus sign and digits stand for. -/
def unsigned? : List Char → Option Nat
  | '+' :: cs => digits? cs
  | cs => digits? cs

/-- The number that an optional sign and digits stand for. -/
def signed? : List Char → Option Int
  | '-' :: cs => (digits? cs).map fun n => -(n : Int)
  | cs => (unsigned? cs).map fun n => (n : Int)

/-- The number that an optional plus sign and digits stand for, if it is below `bound`. -/
def below? (bound : Nat) (cs : List Char) : Option Nat :=
  (unsigned? cs).filter (· < bound)

/-- The least number that 64 bits with a sign do not hold. -/
def int64Bound : Int := 9223372036854775808

/-- Whether 64 bits with a sign hold a number. -/
def fitsInt64 (n : Int) : Bool := -int64Bound ≤ n && n < int64Bound

/-- The number that an optional sign and digits stand for, if 64 bits with a sign hold it. -/
def int64? (cs : List Char) : Option Int := (signed? cs).filter fitsInt64

end SpamVerdict.Decimal
