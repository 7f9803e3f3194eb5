import SpamVerdict.Decimal.Shortest
set_option autoImplicit false

/-!
# Decimal layouts

How the shortest digits of a `Float` are laid out as text.  There are two layouts.  In data
(`Layout.data`) a number always shows that it is not whole by a point or an exponent, and very
large and very small numbers have one.  In running text (`Layout.plain`) there is no exponent,
and a whole number has no point.

The score that SPEC_FULL §6 hands back as a text is in the second layout, and the scores inside
JSON values are in the first.
-/

namespace SpamVerdict.Decimal

/-- The decisions of a decimal layout. -/
structure Layout where
  /-- Which of two equally near shortest decimals is written. -/
  tie : Tie
  /-- The points between which the positional form is used; `none` for always. -/
  positional : Option (Int × Int)
  /-- What a whole number in positional form ends with. -/
  wholeEnd : String
  deriving Repr

namespace Layout

/-- Numbers in data: positional from `1e-5` to below `1e16`, whole numbers end in `.0`. -/
def data : Layout := ⟨.toEven, some (-4, 16), ".0"⟩

/-- Numbers in text: always positional, whole numbers without a point. -/
def plain : Layout := ⟨.up, none, ""⟩

/-- The positional form of digits. -/
def positionalText (layout : Layout) (d : Digits) : List Char :=
  let n := d.digits.length
  if d.point ≤ 0 then
    ['0', '.'] ++ List.replicate (-d.point).toNat '0' ++ d.digits
  else if n ≤ d.point.toNat then
    d.digits ++ List.replicate (d.point.toNat - n) '0' ++ layout.wholeEnd.toList
  else d.digits.take d.point.toNat ++ '.' :: d.digits.drop d.point.toNat

/-- The form with an exponent: one digit before the point, and a sign in the exponent. -/
def exponentText (d : Digits) : List Char :=
  let e := d.point - 1
  let mantissa := match d.digits with
    | [] => []
    | [c] => [c]
    | c :: cs => c :: '.' :: cs
  mantissa ++ 'e' :: (if e < 0 then '-' else '+') :: Nat.toDigits 10 e.natAbs

/-- The text of a positive number with the given digits. -/
def text (layout : Layout) (d : Digits) : List Char :=
  match layout.positional with
  | none => positionalText layout d
  | some (low, high) =>
    if low ≤ d.point && d.point ≤ high then positionalText layout d else exponentText d

/-- The text of a `Float`. -/
def render (layout : Layout) (x : Float) : String :=
  match Scaled.ofFloat? x with
  | none => if x.isNaN then "NaN" else if x < UInt64.toFloat 0 then "-inf" else "inf"
  | some s =>
    let body :=
      if s.mantissa = 0 then '0' :: layout.wholeEnd.toList
      else layout.text (Shortest.digits layout.tie s.mantissa s.exponent)
    String.ofList (if s.negative then '-' :: body else body)

end Layout

end SpamVerdict.Decimal
