set_option autoImplicit false

/-!
# Text from bytes

Bytes are cut into the code units of UTF-8 characters and into faults, each fault being the
longest start of a character that goes wrong.  `decode?` wants no faults, `decodeLossy` puts the
replacement character for each.

The bodies of peers (SPEC_FULL §6) and of requests (§15) arrive as bytes; so do the octets behind
the percent signs of an address and the parts of a text record (§4.2).
-/

namespace SpamVerdict.Text.Utf8

/-- How many bytes follow a leading byte, and the bounds of the first of them. -/
def followers? (b : UInt8) : Option (Nat × UInt8 × UInt8) :=
  if 0xC2 ≤ b && b ≤ 0xDF then some (1, 0x80, 0xBF)
  else if b = 0xE0 then some (2, 0xA0, 0xBF)
  else if b = 0xED then some (2, 0x80, 0x9F)
  else if 0xE1 ≤ b && b ≤ 0xEF then some (2, 0x80, 0xBF)
  else if b = 0xF0 then some (3, 0x90, 0xBF)
  else if b = 0xF4 then some (3, 0x80, 0x8F)
  else if 0xF1 ≤ b && b ≤ 0xF3 then some (3, 0x80, 0xBF)
  else none

/-- A byte that continues a character. -/
def isContinuation (b : UInt8) : Bool := 0x80 ≤ b && b ≤ 0xBF

/-- The low six bits of a byte. -/
def lowBits (b : UInt8) : Nat := b.toNat % 64

/-- The character that starts a byte sequence, `none` for a fault, and how many bytes of it or of
the fault follow the first one. -/
def first (b₀ : UInt8) (rest : List UInt8) : Option Char × Nat :=
  if b₀ < 0x80 then (some (Char.ofNat b₀.toNat), 0)
  else match followers? b₀, rest with
    | none, _ => (none, 0)
    | some _, [] => (none, 0)
    | some (n, low, high), b₁ :: rest =>
      if !(low ≤ b₁ && b₁ ≤ high) then (none, 0)
      else if n = 1 then (some (Char.ofNat (b₀.toNat % 32 * 64 + lowBits b₁)), 1)
      else match rest with
        | [] => (none, 1)
        | b₂ :: rest =>
          if !isContinuation b₂ then (none, 1)
          else if n = 2 then
            (some (Char.ofNat ((b₀.toNat % 16 * 64 + lowBits b₁) * 64 + lowBits b₂)), 2)
          else match rest with
            | [] => (none, 2)
            | b₃ :: _ =>
              if !isContinuation b₃ then (none, 2)
              else
                (some (Char.ofNat
                  (((b₀.toNat % 8 * 64 + lowBits b₁) * 64 + lowBits b₂) * 64 + lowBits b₃)), 3)

/-- The characters of a byte sequence, and `none` for each fault. -/
def characters : List UInt8 → List (Option Char)
  | [] => []
  | b :: rest => (first b rest).1 :: characters (rest.drop (first b rest).2)
termination_by bytes => bytes.length
decreasing_by simp only [List.length_drop, List.length_cons]; omega

/-- The character that stands for a fault. -/
def replacement : Char := '\ufffd'

/-- The text of bytes, with a replacement character for each fault. -/
def decodeLossy (bytes : List UInt8) : List Char :=
  (characters bytes).map (·.getD replacement)

/-- The text of bytes without faults. -/
def decode? (bytes : List UInt8) : Option (List Char) :=
  (characters bytes).mapM id

/-- The bytes of a text. -/
def encode (cs : List Char) : List UInt8 :=
  cs.flatMap String.utf8EncodeChar

end SpamVerdict.Text.Utf8
