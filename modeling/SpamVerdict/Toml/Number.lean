import SpamVerdict.Decimal.Reading
import SpamVerdict.Settings.Value
import SpamVerdict.Text.CharClass
set_option autoImplicit false

/-!
# Numbers (SPEC_FULL §13)

Integers in decimal or behind a sign of their base, decimals, and the words for infinity and for
what is no number.  Underscores may stand between digits.  The thresholds, limits and time-outs of
SPEC_FULL §13 are written so.
-/

namespace SpamVerdict.Toml

open SpamVerdict.Settings (Value)

/-- The digits of a class that continue a number, without the underscores between them, and what
follows them. -/
def moreDigits (isDigit : Char → Bool) : List Char → List Char × List Char
  | '_' :: d :: cs =>
    if isDigit d then
      let (ds, rest) := moreDigits isDigit cs
      (d :: ds, rest)
    else ([], '_' :: d :: cs)
  | d :: cs =>
    if isDigit d then
      let (ds, rest) := moreDigits isDigit cs
      (d :: ds, rest)
    else ([], d :: cs)
  | [] => ([], [])

/-- The digits of a number, of which there is at least one. -/
def digits? (isDigit : Char → Bool) : List Char → Option (List Char × List Char)
  | [] => none
  | d :: cs =>
    if isDigit d then
      let (ds, rest) := moreDigits isDigit cs
      some (d :: ds, rest)
    else none

/-- A sign, if there is one. -/
def sign : List Char → List Char × List Char
  | '+' :: cs => (['+'], cs)
  | '-' :: cs => (['-'], cs)
  | cs => ([], cs)

/-- A decimal integer as it is written but for underscores; no zero stands in front of another
digit. -/
def decimal? (cs : List Char) : Option (List Char × List Char) :=
  let (sign, cs) := sign cs
  match cs with
  | '0' :: rest => some (sign ++ ['0'], rest)
  | cs => (digits? Char.isDigit cs).map fun (ds, rest) => (sign ++ ds, rest)

/-- The point of a decimal and the digits behind it. -/
def fraction? : List Char → Option (List Char × List Char)
  | '.' :: cs => (digits? Char.isDigit cs).map fun (ds, rest) => ('.' :: ds, rest)
  | _ => none

/-- The exponent of a decimal. -/
def exponent? : List Char → Option (List Char × List Char)
  | c :: cs =>
    if c = 'e' || c = 'E' then
      let (sign, cs) := sign cs
      (digits? Char.isDigit cs).map fun (ds, rest) => ('e' :: sign ++ ds, rest)
    else none
  | [] => none

/-- What makes a number a decimal: a fraction, an exponent or both. -/
def decimalTail? (cs : List Char) : Option (List Char × List Char) :=
  match fraction? cs with
  | none => exponent? cs
  | some (fraction, rest) =>
    match exponent? rest with
    | none => some (fraction, rest)
    | some (exponent, rest) => some (fraction ++ exponent, rest)

/-- A decimal; one beyond all finite numbers is refused, but one below them is minus infinity. -/
def writtenFloat? (cs : List Char) : Option (Float × List Char) := do
  let (front, rest) ← decimal? cs
  let (tail, rest) ← decimalTail? rest
  let x ← Decimal.float? (front ++ tail)
  if x.isInf && Decimal.ofInt 0 < x then none
  return (x, rest)

/-- The word for infinity or for what is no number, with an optional sign. -/
def wordFloat? (cs : List Char) : Option (Float × List Char) :=
  let (sign, cs) := sign cs
  match cs with
  | 'i' :: 'n' :: 'f' :: rest => (Decimal.float? (sign ++ "inf".toList)).map (·, rest)
  | 'n' :: 'a' :: 'n' :: rest => (Decimal.float? (sign ++ "nan".toList)).map (·, rest)
  | _ => none

/-- An integer of 64 bits. -/
def inRange? (n : Int) : Option Int := if Decimal.fitsInt64 n then some n else none

/-- The number that digits of a base stand for. -/
def inBase (base : Nat) (ds : List Char) : Nat :=
  ds.foldl (fun n d => base * n + (Text.hexValue? d).getD 0) 0

/-- An integer in a base. -/
def based? (base : Nat) (isDigit : Char → Bool) (cs : List Char) : Option (Int × List Char) := do
  let (ds, rest) ← digits? isDigit cs
  let n ← inRange? (inBase base ds)
  return (n, rest)

/-- An integer. -/
def integer? : List Char → Option (Int × List Char)
  | '0' :: 'x' :: cs => based? 16 Text.isHexDigit cs
  | '0' :: 'o' :: cs => based? 8 (fun c => '0' ≤ c && c ≤ '7') cs
  | '0' :: 'b' :: cs => based? 2 (fun c => c = '0' || c = '1') cs
  | cs => do
    let (ds, rest) ← decimal? cs
    let n ← Decimal.int64? ds
    return (n, rest)

/-- A number. -/
def number? (cs : List Char) : Option (Value × List Char) :=
  ((writtenFloat? cs).map fun (x, rest) => (.float x, rest)) <|>
    ((wordFloat? cs).map fun (x, rest) => (.float x, rest)) <|>
      ((integer? cs).map fun (n, rest) => (.int n, rest))

end SpamVerdict.Toml
