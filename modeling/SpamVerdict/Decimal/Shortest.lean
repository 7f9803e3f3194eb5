import SpamVerdict.Decimal.Binary
set_option autoImplicit false

/-!
# Shortest decimals

The decimal text of a `Float` has the fewest digits that read back as the same value, and among
the decimals of that length the one nearest to it.  `Shortest.digits` finds it by trying one to
seventeen digits: on each decimal grid the two neighbours of the value are tested against the
interval of numbers that round to it, in exact arithmetic.

So a score that is handed on as a text (SPEC_FULL §6) loses nothing.  The search is plain on
purpose, since nothing but its result matters.
-/

namespace SpamVerdict.Decimal

/-- Which of two equally near decimals is taken. -/
inductive Tie where
  | toEven
  | up
  deriving DecidableEq, Repr

/-- Digits and the place of the point: `0.digits · 10 ^ point`. -/
structure Digits where
  digits : List Char
  point : Int
  deriving DecidableEq, Repr

namespace Shortest

/-- A positive value `4 · mantissa` in units of `unit` with the ends of the interval that rounds
to it, all as numerators over one denominator. -/
structure Interval where
  value : Nat
  low : Nat
  high : Nat
  denominator : Nat
  closed : Bool

/-- The interval of numbers that round to `mantissa · 2 ^ exponent`.  Below the least mantissa of
a binade the neighbours are closer. -/
def Interval.of (mantissa : Nat) (exponent : Int) : Interval :=
  let below := if mantissa = Nat.pow 2 52 && -1074 < exponent then 1 else 2
  let scale := Nat.pow 2 exponent.toNat
  { value := 4 * mantissa * scale
    low := (4 * mantissa - below) * scale
    high := (4 * mantissa + 2) * scale
    denominator := 4 * Nat.pow 2 (-exponent).toNat
    closed := mantissa % 2 = 0 }

/-- Whether `count` steps of a grid lie in the interval, the step being `step / denominator`. -/
def Interval.holds (i : Interval) (count step : Nat) : Bool :=
  if i.closed then i.low ≤ count * step && count * step ≤ i.high
  else i.low < count * step && count * step < i.high

/-- The place `p` with `10 ^ (p - 1) ≤ value < 10 ^ p`, searched downwards from `p`. -/
def place (numerator denominator : Nat) : Nat → Int → Int
  | 0, p => p
  | fuel + 1, p =>
    if denominator * Nat.pow 10 (p - 1).toNat ≤ numerator * Nat.pow 10 (1 - p).toNat then p
    else place numerator denominator fuel (p - 1)

/-- The number of grid steps nearest to the value among its neighbours in the interval. -/
def onGrid? (tie : Tie) (i : Interval) (value step : Nat) : Option Nat :=
  let lower := value / step
  let rest := value % step
  let down := i.holds lower step && lower ≠ 0
  let up := i.holds (lower + 1) step
  let takeUp := step < 2 * rest || (step = 2 * rest && (tie = .up || lower % 2 = 1))
  if down && up then some (if takeUp then lower + 1 else lower)
  else if down then some lower
  else if up then some (lower + 1)
  else none

/-- The first grid with a hit, from `count` digits on. -/
def search (tie : Tie) (i : Interval) (p : Int) : Nat → Nat → Nat × Int
  | 0, count => (i.value, p - count)
  | fuel + 1, count =>
    let e := p - count
    let scaled : Interval :=
      { i with
        value := i.value * Nat.pow 10 (-e).toNat
        low := i.low * Nat.pow 10 (-e).toNat
        high := i.high * Nat.pow 10 (-e).toNat }
    match onGrid? tie scaled scaled.value (i.denominator * Nat.pow 10 e.toNat) with
    | some n => (n, e)
    | none => search tie i p fuel (count + 1)

/-- Digits without the zeros at their end. -/
def dropZeros (cs : List Char) : List Char := (cs.reverse.dropWhile (· == '0')).reverse

/-- The shortest digits of a positive value `mantissa · 2 ^ exponent`. -/
def digits (tie : Tie) (mantissa : Nat) (exponent : Int) : Digits :=
  let i := Interval.of mantissa exponent
  let p := place i.value i.denominator 640 310
  let (n, e) := search tie i p 20 1
  let all := Nat.toDigits 10 n
  ⟨dropZeros all, all.length + e⟩

end Shortest

end SpamVerdict.Decimal
