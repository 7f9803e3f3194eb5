import SpamVerdict.Decimal.Binary
import SpamVerdict.Decimal.Numeral
import SpamVerdict.Text.Case
set_option autoImplicit false

/-!
# Reading decimals

A decimal text is an optional sign and either digits with at most one point and an optional
exponent, or one of the words for infinity and for "not a number" in any case.  It stands for the
nearest `Float`.

Peers may give a score as a text (SPEC_FULL §6), and so may the environment (§13).  Numbers of JSON
have rules of their own, with another rounding (`Json.Number.ofParts?`).
-/

namespace SpamVerdict.Decimal

/-- The exponent part of a decimal: nothing, or `e`, an optional sign and digits. -/
def exponent? : List Char → Option Int
  | [] => some 0
  | c :: cs => if c.toLower = 'e' then signed? cs else none

/-- The value of a decimal without its sign. -/
def unsignedFloat? (negative : Bool) (cs : List Char) : Option Float :=
  let whole := cs.takeWhile Char.isDigit
  let rest := cs.dropWhile Char.isDigit
  let fraction := match rest with
    | '.' :: rest => rest.takeWhile Char.isDigit
    | _ => []
  let rest := match rest with
    | '.' :: rest => rest.dropWhile Char.isDigit
    | rest => rest
  if whole.isEmpty && fraction.isEmpty then
    if Text.sameFold cs "inf".toList || Text.sameFold cs "infinity".toList then
      some (ofMagnitude negative infinityMagnitude)
    else if Text.sameFold cs "nan".toList then some (Float.ofBits 0x7FF8000000000000)
    else none
  else
    (exponent? rest).map fun e =>
      nearestDecimal negative (value (whole ++ fraction)) (e - fraction.length)

/-- The `Float` that a decimal text stands for. -/
def float? : List Char → Option Float
  | '-' :: cs => unsignedFloat? true cs
  | '+' :: cs => unsignedFloat? false cs
  | cs => unsignedFloat? false cs

end SpamVerdict.Decimal
