set_option autoImplicit false

/-!
# Binary floating-point values, exactly

A finite `Float` is read from its bits as a sign, a mantissa and a power of two
(`Scaled.ofFloat?`).  In the other direction `nearest` gives the `Float` next to a quotient of
natural numbers, a tie going to the even mantissa, and `nearestDecimal` the one next to a decimal
fraction.  All arithmetic is on natural numbers.

Scores, confidences and thresholds (SPEC_FULL §3, §4.5) are such values.  They are read from texts
and written as texts in several places, and this module is where the two directions meet: no
rounding takes place in either but the one in `nearest`.
-/

namespace SpamVerdict.Decimal

/-- A sign, a mantissa and an exponent: `±mantissa · 2 ^ exponent`. -/
structure Scaled where
  negative : Bool
  mantissa : Nat
  exponent : Int
  deriving DecidableEq, Repr

/-- The value of a finite `Float`. -/
def Scaled.ofFloat? (x : Float) : Option Scaled :=
  let bits := x.toBits.toNat
  let magnitude := bits % Nat.pow 2 63
  let field := magnitude / Nat.pow 2 52
  let fraction := magnitude % Nat.pow 2 52
  if field = 2047 then none
  else some {
    negative := Nat.pow 2 63 ≤ bits
    mantissa := if field = 0 then fraction else fraction + Nat.pow 2 52
    exponent := (max field 1 : Nat) - 1075 }

/-- The `Float` with a sign and the other 63 bits. -/
def ofMagnitude (negative : Bool) (magnitude : Nat) : Float :=
  Float.ofBits (UInt64.ofNat (if negative then Nat.pow 2 63 + magnitude else magnitude))

/-- The 63 bits of infinity. -/
def infinityMagnitude : Nat := 2047 * Nat.pow 2 52

/-- The quotient rounded to the nearest natural number, a half to the even neighbour. -/
def roundDiv (numerator denominator : Nat) : Nat :=
  let q := numerator / denominator
  let r := numerator % denominator
  if denominator < 2 * r || (denominator = 2 * r && q % 2 = 1) then q + 1 else q

/-- The `Float` nearest to `±numerator / denominator`, a tie going to the even mantissa. -/
def nearest (negative : Bool) (numerator denominator : Nat) : Float :=
  if numerator = 0 then ofMagnitude negative 0
  else
    let guess := (Nat.log2 numerator : Int) - Nat.log2 denominator - 53
    let up (e : Int) : Nat := numerator * Nat.pow 2 (-e).toNat
    let down (e : Int) : Nat := denominator * Nat.pow 2 e.toNat
    let fits (e : Int) : Bool := up e < Nat.pow 2 53 * down e
    let base := max guess (-1074)
    let e := if fits base then base else base + 1
    let mantissa := roundDiv (up e) (down e)
    let magnitude := (e + 1074).toNat * Nat.pow 2 52 + mantissa
    ofMagnitude negative (min magnitude infinityMagnitude)

/-- The `Float` nearest to `±coefficient · 10 ^ exponent`.  Magnitudes that are out of range by
many places are settled by their number of digits alone. -/
def nearestDecimal (negative : Bool) (coefficient : Nat) (exponent : Int) : Float :=
  let places : Int := (Nat.toDigits 10 coefficient).length + exponent
  if coefficient = 0 || places < -340 then ofMagnitude negative 0
  else if 320 < places then ofMagnitude negative infinityMagnitude
  else nearest negative (coefficient * Nat.pow 10 exponent.toNat) (Nat.pow 10 (-exponent).toNat)

/-- The `Float` nearest to an integer. -/
def ofInt (n : Int) : Float := nearest (n < 0) n.natAbs 1

/-- The integer nearest to a finite `Float`, a half going away from zero. -/
def roundToInt? (x : Float) : Option Int :=
  (Scaled.ofFloat? x).map fun s =>
    let numerator := s.mantissa * Nat.pow 2 s.exponent.toNat
    let denominator := Nat.pow 2 (-s.exponent).toNat
    let n : Nat := (2 * numerator + denominator) / (2 * denominator)
    if s.negative then -(n : Int) else n

end SpamVerdict.Decimal
