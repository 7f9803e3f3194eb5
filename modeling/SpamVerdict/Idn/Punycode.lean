import SpamVerdict.Text.Blank
set_option autoImplicit false

/-!
# Punycode

A label with characters beyond ASCII is written in ASCII: first its ASCII characters, then the
places and code points of the others as differences in a base of 36 with variable thresholds.
`encode` writes a label and `decode?` reads one; both follow the parameters of the standard for
host names.

Labels come this way into the hosts of endpoints (SPEC_FULL §13) and into the names that are asked
for (§4.2).
-/

namespace SpamVerdict.Idn.Punycode

/-- The character of a digit below 36. -/
def digitChar (d : Nat) : Char :=
  if d < 26 then Char.ofNat (97 + d) else Char.ofNat (22 + d)

/-- The digit that a character stands for. -/
def digit? (c : Char) : Option Nat :=
  if 'a' ≤ c && c ≤ 'z' then some (c.toNat - 97)
  else if 'A' ≤ c && c ≤ 'Z' then some (c.toNat - 65)
  else if c.isDigit then some (c.toNat - 22)
  else none

/-- The threshold of the digit at position `k`. -/
def threshold (k bias : Nat) : Nat :=
  if k ≤ bias then 1 else if bias + 26 ≤ k then 26 else k - bias

/-- Divides a difference until it is small, counting the positions. -/
def shrink : Nat → Nat → Nat → Nat × Nat
  | 0, delta, k => (delta, k)
  | fuel + 1, delta, k => if 455 < delta then shrink fuel (delta / 35) (k + 36) else (delta, k)

/-- The bias after a difference. -/
def adapt (delta points : Nat) (first : Bool) : Nat :=
  let delta := if first then delta / 700 else delta / 2
  let (delta, k) := shrink 64 (delta + delta / points) 0
  k + 36 * delta / (delta + 38)

/-- The digits of a difference. -/
def digits (bias : Nat) : Nat → Nat → Nat → List Char
  | 0, _, _ => []
  | fuel + 1, k, q =>
    let t := threshold k bias
    if q < t then [digitChar q]
    else digitChar (t + (q - t) % (36 - t)) :: digits bias fuel (k + 36) ((q - t) / (36 - t))

/-- What is written so far: output, difference, bias, and the number of characters handled. -/
structure Writer where
  out : List Char
  delta : Nat
  bias : Nat
  handled : Nat

/-- Passes over one character of the label in the round for code point `m`. -/
def Writer.pass (basic m : Nat) (w : Writer) (c : Char) : Writer :=
  if c.toNat < m then { w with delta := w.delta + 1 }
  else if c.toNat = m then
    { out := w.out ++ digits w.bias 64 36 w.delta
      delta := 0
      bias := adapt w.delta (w.handled + 1) (w.handled = basic)
      handled := w.handled + 1 }
  else w

/-- One round for each code point, in ascending order; `n` is the least one not handled. -/
def rounds (label : List Char) (basic : Nat) : List Nat → Nat → Writer → Writer
  | [], _, w => w
  | m :: ms, n, w =>
    let w := { w with delta := w.delta + (m - n) * (w.handled + 1) }
    let w := label.foldl (Writer.pass basic m) w
    rounds label basic ms (m + 1) { w with delta := w.delta + 1 }

/-- The ASCII form of a label, without the mark in front. -/
def encode (label : List Char) : List Char :=
  let basic := label.filter (·.toNat < 128)
  let points := ((label.filter (128 ≤ ·.toNat)).map Char.toNat).mergeSort.eraseDups
  let w := rounds label basic.length points 128 ⟨[], 0, 72, basic.length⟩
  basic ++ (if basic.isEmpty then [] else ['-']) ++ w.out

/-- Reads one difference: the new index and the rest.  The weight of a digit fits in 32 bits. -/
def readDelta? (bias : Nat) : List Char → Nat → Nat → Nat → Option (Nat × List Char)
  | [], _, _, _ => none
  | c :: cs, k, weight, i => do
    let d ← digit? c
    let i := i + d * weight
    let t := threshold k bias
    if d < t then return (i, cs)
    if Nat.pow 2 32 ≤ weight * (36 - t) then none
    readDelta? bias cs (k + 36) (weight * (36 - t)) i

/-- Puts the characters of the differences into the output. -/
def insertAll? : Nat → List Char → Nat → Nat → Nat → List Char → Option (List Char)
  | _, [], _, _, _, out => some out
  | 0, _ :: _, _, _, _, _ => none
  | fuel + 1, cs, n, i, bias, out => do
    let (j, rest) ← readDelta? bias cs 36 1 i
    let size := out.length + 1
    let n := n + j / size
    let place := j % size
    if 0x10FFFF < n || (0xD800 ≤ n && n < 0xE000) then none
    else
      insertAll? fuel rest n (place + 1) (adapt (j - i) size (i = 0))
        (out.take place ++ Char.ofNat n :: out.drop place)

/-- The label that an ASCII form without its mark stands for.  The delimiter is not written where
there is no ASCII character to set off. -/
def decode? (cs : List Char) : Option (List Char) :=
  match Text.cut? '-' cs.reverse with
  | none => insertAll? cs.length cs 128 0 72 []
  | some (tail, basic) =>
    if basic.isEmpty || basic.any (128 ≤ ·.toNat) then none
    else insertAll? cs.length tail.reverse 128 0 72 basic.reverse

end SpamVerdict.Idn.Punycode
