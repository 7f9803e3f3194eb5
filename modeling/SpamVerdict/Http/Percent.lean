import SpamVerdict.Text.CharClass
import SpamVerdict.Text.Utf8
set_option autoImplicit false

/-!
# Percent-encoding

A byte is written as a percent sign and two hexadecimal digits in upper case.  Which characters
of a text are written so depends on the place they stand in; characters beyond ASCII always are.

The places are those of an address on the web, of which the settings hold two (SPEC_FULL §13), and
of a form-encoded query (§6).
-/

namespace SpamVerdict.Http

/-- A hexadecimal digit in upper case. -/
def upperHex (n : Nat) : Char :=
  Char.ofNat (if n < 10 then 48 + n else 55 + n)

/-- A byte as a percent sign and two digits. -/
def percentByte (b : UInt8) : List Char :=
  ['%', upperHex (b.toNat / 16), upperHex (b.toNat % 16)]

/-- The text in which the characters of a class, the control characters and the characters
beyond ASCII are percent-encoded. -/
def percentEncode (special : Char → Bool) (cs : List Char) : List Char :=
  cs.flatMap fun c =>
    if c.toNat < 0x20 || 0x7F ≤ c.toNat || special c then
      (String.utf8EncodeChar c).flatMap percentByte
    else [c]

/-- The bytes of a text in which percent signs with two digits stand for bytes. -/
def percentDecode : List Char → List UInt8
  | '%' :: a :: b :: cs =>
    match Text.hexValue? a, Text.hexValue? b with
    | some x, some y => UInt8.ofNat (16 * x + y) :: percentDecode cs
    | _, _ => String.utf8EncodeChar '%' ++ percentDecode (a :: b :: cs)
  | [] => []
  | c :: cs => String.utf8EncodeChar c ++ percentDecode cs
termination_by cs => cs.length

end SpamVerdict.Http
