import SpamVerdict.Json.Basic
import SpamVerdict.Decimal.Numeral
import SpamVerdict.Text.CharClass
import SpamVerdict.Text.Utf8
set_option autoImplicit false

/-!
# Reading JSON text (SPEC_FULL §6, §15)

Text is first read into a `Tree`, which keeps members in their order with repetitions, and in
which the place where the text stops being JSON stands as a break.  A tree is then read as a
value (`Tree.value?`) or, in `Json.Record`, as data of a known shape; both find the first fault in
the order of the text.

A number with a point or an exponent is the product or quotient of its leading digits, as many as
64 bits hold, and a power of ten, each step rounded; `Number.ofParts?` states it.

The text is one of characters or one of bytes (`Units`).  In bytes only the contents of strings are
UTF-8, and a string that is not is a fault where it is read and none where it is skipped, as with an
escape that names no character.  So the body of a request (SPEC_FULL §15) need not be a text as a
whole.
-/

namespace SpamVerdict.Json

/-! ## Numbers -/

/-- The least number that 64 bits do not hold. -/
def wordBound : Nat := Nat.pow 2 64

/-- A power of ten as a `Float`. -/
def powerOfTen (n : Nat) : Float := Decimal.nearestDecimal false 1 n

/-- Divides by `10 ^ 308` while the exponent is below what one power of ten covers. -/
def scaleDown (x : Float) : Nat → Int → Float × Int
  | 0, e => (x, e)
  | fuel + 1, e =>
    if -308 ≤ e || x == UInt64.toFloat 0 then (x, e)
    else scaleDown (x / powerOfTen 308) fuel (e + 308)

/-- The number `±significand · 10 ^ exponent`, unless it is out of range. -/
def Number.ofParts? (negative : Bool) (significand : Nat) (exponent : Int) : Option Number :=
  let start := (UInt64.ofNat significand).toFloat
  let signed (x : Float) : Number := .float (if negative then -x else x)
  if start == UInt64.toFloat 0 then some (signed start)
  else if 308 < exponent then none
  else if 0 ≤ exponent then
    let x := start * powerOfTen exponent.toNat
    if x.isInf then none else some (signed x)
  else
    let (x, e) := scaleDown start 3 exponent
    some (signed (if x == UInt64.toFloat 0 then x else x / powerOfTen (-e).toNat))

/-- Digits put behind a significand while 64 bits hold the result; the digits left over. -/
def accumulate (significand : Nat) : List Char → Nat × List Char
  | [] => (significand, [])
  | c :: cs =>
    let next := 10 * significand + (c.toNat - 48)
    if next < wordBound then accumulate next cs else (significand, c :: cs)

/-- The parts of a number text: whole digits, fraction digits and exponent, the last two only if
they are there. -/
structure Literal where
  negative : Bool
  whole : List Char
  fraction : Option (List Char)
  exponent : Option (Bool × List Char)
  deriving DecidableEq

/-- The number that a literal stands for, unless it is out of range. -/
def Literal.number? (l : Literal) : Option Number :=
  let (significand, extra) := accumulate 0 l.whole
  match l.fraction, l.exponent with
  | none, none =>
    if !extra.isEmpty then Number.ofParts? l.negative significand extra.length
    else if !l.negative then some (.int significand)
    else if 0 < significand && significand ≤ Nat.pow 2 63 then some (.int (-(significand : Int)))
    else some (.float (-(UInt64.ofNat significand).toFloat))
  | fraction, exponent =>
    let digits := fraction.getD []
    let (significand, rest) := accumulate significand digits
    let scale : Int := extra.length - (digits.length - rest.length : Nat)
    let shift : Int := match exponent with
      | none => 0
      | some (down, ds) => if down then -(Decimal.value ds : Int) else Decimal.value ds
    Number.ofParts? l.negative significand (scale + shift)

/-- Reads the digits of a fraction, if a point follows; a point without digits is no number. -/
def readFraction? : List Char → Option (Option (List Char) × List Char)
  | '.' :: cs =>
    let ds := cs.takeWhile Char.isDigit
    if ds.isEmpty then none else some (some ds, cs.dropWhile Char.isDigit)
  | cs => some (none, cs)

/-- Reads an exponent, if one follows; one without digits is no number. -/
def readExponent? : List Char → Option (Option (Bool × List Char) × List Char)
  | [] => some (none, [])
  | c :: cs =>
    if c = 'e' ∨ c = 'E' then
      let (down, cs) := match cs with
        | '+' :: cs => (false, cs)
        | '-' :: cs => (true, cs)
        | cs => (false, cs)
      let ds := cs.takeWhile Char.isDigit
      if ds.isEmpty then none else some (some (down, ds), cs.dropWhile Char.isDigit)
    else some (none, c :: cs)

/-- Reads a number after its sign: no leading zero in front of another digit. -/
def readLiteral? (negative : Bool) (cs : List Char) : Option (Literal × List Char) := do
  let ds := cs.takeWhile Char.isDigit
  if ds.isEmpty || (ds.head? == some '0' && 1 < ds.length) then none
  let (fraction, cs) ← readFraction? (cs.dropWhile Char.isDigit)
  let (exponent, cs) ← readExponent? cs
  return (⟨negative, ds, fraction, exponent⟩, cs)

/-! ## Strings -/

/-- One piece of a string as written: a character or a UTF-16 unit given by its number. -/
inductive Piece where
  | char (c : Char)
  | unit (n : Nat)

/-- The number that four hexadecimal digits stand for. -/
def hexUnit? (a b c d : Char) : Option Nat := do
  let a ← Text.hexValue? a
  let b ← Text.hexValue? b
  let c ← Text.hexValue? c
  let d ← Text.hexValue? d
  return ((a * 16 + b) * 16 + c) * 16 + d

/-- Reads the pieces of a string up to its closing quote. -/
def readPieces? : List Char → Option (List Piece × List Char)
  | [] => none
  | '\x22' :: cs => some ([], cs)
  | '\x5c' :: 'u' :: a :: b :: c :: d :: cs => do
    let n ← hexUnit? a b c d
    let (ps, rest) ← readPieces? cs
    return (.unit n :: ps, rest)
  | '\x5c' :: e :: cs => do
    let c ← match e with
      | '\x22' => some '\x22'
      | '\x5c' => some '\x5c'
      | '/' => some '/'
      | 'b' => some '\x08'
      | 'f' => some '\x0c'
      | 'n' => some '\n'
      | 'r' => some '\r'
      | 't' => some '\t'
      | _ => none
    let (ps, rest) ← readPieces? cs
    return (.char c :: ps, rest)
  | c :: cs =>
    if c.toNat < 0x20 then none
    else do
      let (ps, rest) ← readPieces? cs
      return (.char c :: ps, rest)

/-- What a text is written in: how its units, given as characters, stand for the contents of its
strings. -/
structure Units where
  /-- The units of a character that is given by its number. -/
  encode : Char → List Char
  /-- The contents that units stand for. -/
  decode? : List Char → Option (List Char)

namespace Units

/-- A text of characters, which stand for themselves. -/
def characters : Units := ⟨fun c => [c], some⟩

/-- A byte as the character of the same number. -/
def ofByte (b : UInt8) : Char := Char.ofNat b.toNat

/-- A text of bytes, which stand for UTF-8. -/
def bytes : Units where
  encode c := (String.utf8EncodeChar c).map ofByte
  decode? cs := Text.Utf8.decode? (cs.map fun c => UInt8.ofNat c.toNat)

end Units

section

variable (units : Units)

/-- The units of the pieces; a surrogate must be the half of a pair. -/
def unitsOfPieces? : List Piece → Option (List Char)
  | [] => some []
  | .char c :: ps => (unitsOfPieces? ps).map (c :: ·)
  | [.unit n] => if 0xD800 ≤ n && n < 0xE000 then none else some (units.encode (Char.ofNat n))
  | .unit n :: .unit m :: ps =>
    if 0xD800 ≤ n && n < 0xDC00 then
      if 0xDC00 ≤ m && m < 0xE000 then
        let c := Char.ofNat (0x10000 + (n - 0xD800) * 0x400 + (m - 0xDC00))
        (unitsOfPieces? ps).map (units.encode c ++ ·)
      else none
    else if 0xDC00 ≤ n && n < 0xE000 then none
    else (unitsOfPieces? (.unit m :: ps)).map (units.encode (Char.ofNat n) ++ ·)
  | .unit n :: .char c :: ps =>
    if 0xD800 ≤ n && n < 0xE000 then none
    else (unitsOfPieces? (.char c :: ps)).map (units.encode (Char.ofNat n) ++ ·)

/-- Reads a string after its opening quote.  Only units that the quotes enclose are decoded, so a
fault in them is a fault of this string alone. -/
def readString? (cs : List Char) : Option (Option String × List Char) :=
  (readPieces? cs).map fun (ps, rest) =>
    (((unitsOfPieces? units ps).bind units.decode?).map String.ofList, rest)

/-! ## Trees -/

/-- A text read as far as it is JSON.  A string is `none` if what it contains is no text, a number
is `none` if it is out of range, and `closed` says whether the closing bracket was found. -/
inductive Tree where
  | broken
  | null
  | bool (b : Bool)
  | number (n : Option Number)
  | string (s : Option String)
  | array (items : List Tree) (closed : Bool)
  | object (members : List (Option String × Tree)) (closed : Bool)
  deriving Inhabited

/-- A blank between the tokens. -/
def isGap (c : Char) : Bool := c == ' ' || c == '\n' || c == '\t' || c == '\r'

/-- The text without the blanks in front. -/
def skipGap (cs : List Char) : List Char := cs.dropWhile isGap

/-- Reads a word, which stands for the given tree. -/
def readWord (word : List Char) (tree : Tree) (cs : List Char) : Tree × Option (List Char) :=
  if cs.take word.length = word then (tree, some (cs.drop word.length)) else (.broken, none)

mutual

/-- Reads a tree.  The rest of the text is there only if nothing is broken. -/
def readTree : Nat → List Char → Tree × Option (List Char)
  | 0, _ => (.broken, none)
  | fuel + 1, cs =>
    match skipGap cs with
    | [] => (.broken, none)
    | c :: cs =>
      if c = '\x7b' then
        match skipGap cs with
        | '\x7d' :: rest => (.object [] true, some rest)
        | cs =>
          let (members, rest) := readMembers fuel cs
          (.object members rest.isSome, rest)
      else if c = '[' then
        match skipGap cs with
        | ']' :: rest => (.array [] true, some rest)
        | cs =>
          let (items, rest) := readItems fuel cs
          (.array items rest.isSome, rest)
      else if c = '\x22' then
        match readString? units cs with
        | some (s, rest) => (.string s, some rest)
        | none => (.broken, none)
      else if c = 'n' then readWord "ull".toList .null cs
      else if c = 't' then readWord "rue".toList (.bool true) cs
      else if c = 'f' then readWord "alse".toList (.bool false) cs
      else
        match (if c = '-' then readLiteral? true cs else readLiteral? false (c :: cs)) with
        | some (l, rest) => (.number l.number?, some rest)
        | none => (.broken, none)

/-- Reads items up to the closing bracket. -/
def readItems : Nat → List Char → List Tree × Option (List Char)
  | 0, _ => ([], none)
  | fuel + 1, cs =>
    match readTree fuel cs with
    | (item, none) => ([item], none)
    | (item, some cs) =>
      match skipGap cs with
      | ']' :: rest => ([item], some rest)
      | ',' :: cs =>
        match skipGap cs with
        | ']' :: _ => ([item], none)
        | cs =>
          let (items, rest) := readItems fuel cs
          (item :: items, rest)
      | _ => ([item], none)

/-- Reads members up to the closing brace. -/
def readMembers : Nat → List Char → List (Option String × Tree) × Option (List Char)
  | 0, _ => ([], none)
  | fuel + 1, cs =>
    match skipGap cs with
    | '\x22' :: cs =>
      match readString? units cs with
      | none => ([], none)
      | some (key, cs) =>
        match skipGap cs with
        | ':' :: cs =>
          match readTree fuel cs with
          | (value, none) => ([(key, value)], none)
          | (value, some cs) =>
            match skipGap cs with
            | '\x7d' :: rest => ([(key, value)], some rest)
            | ',' :: cs =>
              let (members, rest) := readMembers fuel cs
              ((key, value) :: members, rest)
            | _ => ([(key, value)], none)
        | _ => ([(key, .broken)], none)
    | _ => ([], none)

end

/-- The tree at the start of a text and, if nothing is broken, the text behind it. -/
def Tree.readUnits (cs : List Char) : Tree × Option (List Char) :=
  readTree units (2 * cs.length + 2) cs

end

/-- The tree at the start of a text of characters, and the text behind it. -/
def Tree.read (s : String) : Tree × Option (List Char) := Tree.readUnits .characters s.toList

/-- The tree at the start of a text of bytes, and the text behind it. -/
def Tree.readBytes (bs : List UInt8) : Tree × Option (List Char) :=
  Tree.readUnits .bytes (bs.map Units.ofByte)

/-! ## Values -/

mutual

/-- The value of a tree with at most `depth` levels of brackets, each number in range, each
string with a text and nothing broken. -/
def Tree.value? (depth : Nat) : Tree → Option Json
  | .broken => none
  | .null => some .null
  | .bool b => some (.bool b)
  | .number n => n.map .number
  | .string s => s.map .string
  | .array items closed =>
    match depth with
    | 0 => none
    | depth + 1 => if closed then (itemValues? depth items).map .array else none
  | .object members closed =>
    match depth with
    | 0 => none
    | depth + 1 =>
      if closed then (memberValues? depth members).map fun ms => .object (Members.ofList ms)
      else none

/-- The values of trees. -/
def itemValues? (depth : Nat) : List Tree → Option (List Json)
  | [] => some []
  | t :: ts => do
    let v ← Tree.value? depth t
    let vs ← itemValues? depth ts
    return v :: vs

/-- The keys and values of members. -/
def memberValues? (depth : Nat) : List (Option String × Tree) → Option (List (String × Json))
  | [] => some []
  | (k, t) :: ts => do
    let k ← k
    let v ← Tree.value? depth t
    let vs ← memberValues? depth ts
    return (k, v) :: vs

end

/-- The number of levels of brackets that a text may have. -/
def maxDepth : Nat := 127

/-- The value that a whole text stands for. -/
def parse? (s : String) : Option Json :=
  match Tree.read s with
  | (tree, some rest) => if (skipGap rest).isEmpty then tree.value? maxDepth else none
  | (_, none) => none

mutual

/-- The tree of a value. -/
def Tree.ofJson : Json → Tree
  | .null => .null
  | .bool b => .bool b
  | .number n => .number (some n)
  | .string s => .string (some s)
  | .array items => .array (treesOfItems items) true
  | .object members => .object (treesOfMembers members) true

/-- The trees of values. -/
def treesOfItems : List Json → List Tree
  | [] => []
  | v :: vs => Tree.ofJson v :: treesOfItems vs

/-- The trees of members. -/
def treesOfMembers : List (String × Json) → List (Option String × Tree)
  | [] => []
  | (k, v) :: ms => (some k, Tree.ofJson v) :: treesOfMembers ms

end

end SpamVerdict.Json
