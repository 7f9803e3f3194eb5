import SpamVerdict.Decimal.Numeral
set_option autoImplicit false

/-!
# Dates and times (SPEC_FULL §13)

A date, a time of day, or both with an optional offset.  As a setting a moment is only a text, so
reading it checks its parts and writes them in their usual form: a `T` before the time, no zeros
at the end of a fraction of a second, at most nine digits of it.

No entry of SPEC_FULL §13 is a moment, but a document that holds a broken one cannot be read.
-/

namespace SpamVerdict.Toml

/-- A number of exactly `n` digits within bounds. -/
def field? (n low high : Nat) (cs : List Char) : Option (List Char × List Char) :=
  let ds := cs.take n
  if ds.length = n && ds.all Char.isDigit && low ≤ Decimal.value ds && Decimal.value ds ≤ high then
    some (ds, cs.drop n)
  else none

/-- What follows a mark. -/
def afterMark? (mark : Char) : List Char → Option (List Char)
  | [] => none
  | c :: cs => if c = mark then some cs else none

/-- A year has a day more every four years, but not every hundred, but every four hundred. -/
def isLeap (year : Nat) : Bool := year % 4 = 0 && (year % 100 ≠ 0 || year % 400 = 0)

/-- The number of days of a month. -/
def daysOf (year month : Nat) : Nat :=
  if month = 2 then if isLeap year then 29 else 28
  else if [4, 6, 9, 11].contains month then 30
  else 31

/-- A date. -/
def date? (cs : List Char) : Option (List Char × List Char) := do
  let (year, cs) ← field? 4 0 9999 cs
  let cs ← afterMark? '-' cs
  let (month, cs) ← field? 2 1 12 cs
  let cs ← afterMark? '-' cs
  let (day, cs) ← field? 2 1 (daysOf (Decimal.value year) (Decimal.value month)) cs
  return (year ++ '-' :: month ++ '-' :: day, cs)

/-- A fraction of a second, if a point follows; a point without digits is none. -/
def secondFraction? : List Char → Option (List Char × List Char)
  | '.' :: cs =>
    let ds := cs.takeWhile Char.isDigit
    let kept := Text.trimEndOf (· == '0') (ds.take 9)
    if ds.isEmpty then none
    else some (if kept.isEmpty then [] else '.' :: kept, cs.dropWhile Char.isDigit)
  | cs => some ([], cs)

/-- A time of day. -/
def time? (cs : List Char) : Option (List Char × List Char) := do
  let (hour, cs) ← field? 2 0 23 cs
  let cs ← afterMark? ':' cs
  let (minute, cs) ← field? 2 0 59 cs
  let cs ← afterMark? ':' cs
  let (second, cs) ← field? 2 0 60 cs
  let (fraction, cs) ← secondFraction? cs
  return (hour ++ ':' :: minute ++ ':' :: second ++ fraction, cs)

/-- An offset, if one follows; no offset in either direction is written with a plus sign. -/
def offset? : List Char → Option (List Char × List Char)
  | [] => some ([], [])
  | c :: cs =>
    if c = 'Z' || c = 'z' then some (['Z'], cs)
    else if c = '+' || c = '-' then do
      let (hour, cs) ← field? 2 0 23 cs
      let cs ← afterMark? ':' cs
      let (minute, cs) ← field? 2 0 59 cs
      let isZero := Decimal.value hour = 0 && Decimal.value minute = 0
      return ((if isZero then '+' else c) :: hour ++ ':' :: minute, cs)
    else some ([], c :: cs)

/-- A date with an optional time and an optional offset. -/
def dateAndTime? (cs : List Char) : Option (List Char × List Char) := do
  let (date, cs) ← date? cs
  let later := match cs with
    | c :: rest => if c = 'T' || c = 't' || c = ' ' then time? rest else none
    | [] => none
  match later with
  | none => return (date, cs)
  | some (time, cs) =>
    let (offset, cs) ← offset? cs
    return (date ++ 'T' :: time ++ offset, cs)

/-- A moment. -/
def moment? (cs : List Char) : Option (List Char × List Char) := dateAndTime? cs <|> time? cs

end SpamVerdict.Toml
