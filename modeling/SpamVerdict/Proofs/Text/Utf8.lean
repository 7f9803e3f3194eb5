import SpamVerdict.Text.Utf8
set_option autoImplicit false

/-!
# Text as bytes and back

What a leading byte demands of the ones behind it is met by the code units of a character, so each
character is read back whole and the text of encoded bytes is the text that was encoded
(`decodeLossy_encode`).
-/

namespace SpamVerdict.Text.Utf8

/-! ## Leading bytes -/

theorem followers?_two :
    ∀ n < 0xE0, 0xC2 ≤ n → followers? (UInt8.ofNat n) = some (1, 0x80, 0xBF) := by
  decide +kernel

theorem followers?_three : ∀ n < 0xF0, 0xE0 ≤ n → followers? (UInt8.ofNat n) =
    some (2, .ofNat (if n = 0xE0 then 0xA0 else 0x80),
      .ofNat (if n = 0xED then 0x9F else 0xBF)) := by
  decide +kernel

theorem followers?_four : ∀ n < 0xF5, 0xF0 ≤ n → followers? (UInt8.ofNat n) =
    some (3, .ofNat (if n = 0xF0 then 0x90 else 0x80),
      .ofNat (if n = 0xF4 then 0x8F else 0xBF)) := by
  decide +kernel

theorem toNat_ofNat {n : Nat} (hn : n < 256) : (UInt8.ofNat n).toNat = n :=
  UInt8.toNat_ofNat_of_lt' hn

theorem ofNat_le_iff {m n : Nat} (hm : m < 256) (hn : n < 256) :
    UInt8.ofNat m ≤ UInt8.ofNat n ↔ m ≤ n := by
  rw [UInt8.le_iff_toNat_le, toNat_ofNat hm, toNat_ofNat hn]

theorem between_ofNat (low n high : Nat) (hlow : low ≤ n) (hhigh : n ≤ high) (h : high < 256) :
    (UInt8.ofNat low ≤ UInt8.ofNat n && UInt8.ofNat n ≤ UInt8.ofNat high) = true := by
  rw [Bool.and_eq_true, decide_eq_true_eq, decide_eq_true_eq, ofNat_le_iff (by omega) (by omega),
    ofNat_le_iff (by omega) h]
  exact ⟨hlow, hhigh⟩

theorem isContinuation_ofNat (n : Nat) : isContinuation (UInt8.ofNat (n % 0x40 + 0x80)) = true :=
  between_ofNat 0x80 _ 0xBF (by omega) (by omega) (by decide)

theorem lowBits_ofNat (n : Nat) : lowBits (UInt8.ofNat (n % 0x40 + 0x80)) = n % 64 := by
  rw [lowBits, toNat_ofNat (by omega)]
  omega

theorem not_lt_of_le {n : Nat} (hlow : 0x80 ≤ n) (hhigh : n < 256) : ¬ UInt8.ofNat n < 0x80 := by
  rw [UInt8.lt_iff_toNat_lt, toNat_ofNat hhigh]
  exact Nat.not_lt.2 hlow

/-! ## Characters -/

section First

variable {v : Nat} (rest : List UInt8)

theorem first_one (hhigh : v < 0x80) : first (UInt8.ofNat v) rest = (some (Char.ofNat v), 0) := by
  have hb : UInt8.ofNat v < 0x80 := by
    rw [UInt8.lt_iff_toNat_lt, toNat_ofNat (by omega)]
    exact hhigh
  unfold first
  rw [if_pos hb, toNat_ofNat (by omega)]

theorem first_two (hlow : 0x80 ≤ v) (hhigh : v < 0x800) :
    first (UInt8.ofNat (v / 64 % 0x20 + 0xc0)) (UInt8.ofNat (v % 0x40 + 0x80) :: rest) =
      (some (Char.ofNat v), 1) := by
  have hlead : v / 64 % 0x20 + 0xc0 < 256 := by omega
  have hb := not_lt_of_le (by omega) hlead
  have hfollowers := followers?_two (v / 64 % 0x20 + 0xc0) (by omega) (by omega)
  have hcontinues := isContinuation_ofNat v
  have hvalue : (v / 64 % 0x20 + 0xc0) % 32 * 64 + v % 64 = v := by omega
  rw [isContinuation] at hcontinues
  simp only [first, hb, hfollowers, hcontinues, lowBits_ofNat, toNat_ofNat hlead, hvalue]
  rfl

theorem first_three (hlow : 0x800 ≤ v) (hhigh : v < 0x10000)
    (hvalid : v < 0xD800 ∨ 0xDFFF < v) :
    first (UInt8.ofNat (v / 4096 % 0x10 + 0xe0)) (UInt8.ofNat (v / 64 % 0x40 + 0x80) ::
      UInt8.ofNat (v % 0x40 + 0x80) :: rest) = (some (Char.ofNat v), 2) := by
  have hlead : v / 4096 % 0x10 + 0xe0 < 256 := by omega
  have hb := not_lt_of_le (by omega) hlead
  have hfollowers := followers?_three (v / 4096 % 0x10 + 0xe0) (by omega) (by omega)
  -- The bounds leave out what has a shorter form and what is half of a pair.
  have hbounds := between_ofNat (if v / 4096 % 0x10 + 0xe0 = 0xE0 then 0xA0 else 0x80)
    (v / 64 % 0x40 + 0x80) (if v / 4096 % 0x10 + 0xe0 = 0xED then 0x9F else 0xBF)
    (by split <;> omega) (by split <;> omega) (by split <;> omega)
  have hvalue : ((v / 4096 % 0x10 + 0xe0) % 16 * 64 + v / 64 % 64) * 64 + v % 64 = v := by omega
  simp only [first, hb, hfollowers, hbounds, isContinuation_ofNat, lowBits_ofNat,
    toNat_ofNat hlead, hvalue]
  rfl

theorem first_four (hlow : 0x10000 ≤ v) (hhigh : v < 0x110000) :
    first (UInt8.ofNat (v / 262144 % 0x08 + 0xf0)) (UInt8.ofNat (v / 4096 % 0x40 + 0x80) ::
      UInt8.ofNat (v / 64 % 0x40 + 0x80) :: UInt8.ofNat (v % 0x40 + 0x80) :: rest) =
      (some (Char.ofNat v), 3) := by
  have hlead : v / 262144 % 0x08 + 0xf0 < 256 := by omega
  have hb := not_lt_of_le (by omega) hlead
  have hfollowers := followers?_four (v / 262144 % 0x08 + 0xf0) (by omega) (by omega)
  -- The bounds leave out what has a shorter form and what is beyond the last character.
  have hbounds := between_ofNat (if v / 262144 % 0x08 + 0xf0 = 0xF0 then 0x90 else 0x80)
    (v / 4096 % 0x40 + 0x80) (if v / 262144 % 0x08 + 0xf0 = 0xF4 then 0x8F else 0xBF)
    (by split <;> omega) (by split <;> omega) (by split <;> omega)
  have hvalue : (((v / 262144 % 0x08 + 0xf0) % 8 * 64 + v / 4096 % 64) * 64 + v / 64 % 64) * 64 +
      v % 64 = v := by omega
  simp only [first, hb, hfollowers, hbounds, isContinuation_ofNat, lowBits_ofNat,
    toNat_ofNat hlead, hvalue]
  rfl

end First

/-- The first byte of a character announces the others. -/
theorem first_utf8EncodeChar (c : Char) : ∃ b bytes, String.utf8EncodeChar c = b :: bytes ∧
    ∀ rest, first b (bytes ++ rest) = (some c, bytes.length) := by
  have hvalid : c.toNat < 0xD800 ∨ 0xDFFF < c.toNat ∧ c.toNat < 0x110000 := c.valid
  suffices h : ∃ b bytes, String.utf8EncodeChar c = b :: bytes ∧
      ∀ rest, first b (bytes ++ rest) = (some (Char.ofNat c.toNat), bytes.length) by
    rwa [Char.ofNat_toNat] at h
  have hv : c.val.toNat = c.toNat := rfl
  unfold String.utf8EncodeChar
  rw [hv]
  generalize c.toNat = v at hvalid
  dsimp only
  split
  · exact ⟨_, [], rfl, fun rest => first_one rest (by omega)⟩
  · split
    · exact ⟨_, [_], rfl, fun rest => first_two rest (by omega) (by omega)⟩
    · split
      · exact ⟨_, [_, _], rfl,
          fun rest => first_three rest (by omega) (by omega) (by omega)⟩
      · exact ⟨_, [_, _, _], rfl,
          fun rest => first_four rest (by omega) (by omega)⟩

theorem characters_encode (cs : List Char) : characters (encode cs) = cs.map some := by
  induction cs with
  | nil => rw [encode, List.flatMap_nil, characters, List.map_nil]
  | cons c cs ih =>
    obtain ⟨b, bytes, hbytes, hfirst⟩ := first_utf8EncodeChar c
    have hencode : encode (c :: cs) = b :: (bytes ++ encode cs) := by
      rw [encode, List.flatMap_cons, hbytes, List.cons_append, encode]
    rw [hencode, characters, hfirst, List.drop_left, ih, List.map_cons]

/-- Encoded text is read back as it was. -/
theorem decodeLossy_encode (cs : List Char) : decodeLossy (encode cs) = cs := by
  rw [decodeLossy, characters_encode, List.map_map]
  exact List.map_id cs

end SpamVerdict.Text.Utf8
