import SpamVerdict.Ip.Address
import SpamVerdict.Proofs.Text.Cutting
import Mathlib.Algebra.Group.Nat.Defs
import Mathlib.Data.List.Induction
set_option autoImplicit false

/-!
# The numerals of an address text

A dotted text is made of decimal numerals, one for each octet, and an octet has only one
(`octet?_eq_some_iff`).  The text of an IPv6 address is made of hexadecimal numerals, of which a
group has several: up to four digits, of either case and with any zeros in front (`SpellsGroup`).
Numerals have no separator among their digits, so that they come back from the text into which they
are joined (`split_joinWith`).
-/

namespace SpamVerdict

/-! ## Decimal numerals -/

namespace Decimal

theorem value_numeral (n : Nat) : value (numeral n) = n :=
  Nat.ofDigitChars_toDigits (by decide) (by decide)

theorem isDigit_of_mem_numeral {n : Nat} {c : Char} (h : c ∈ numeral n) : c.isDigit = true :=
  Nat.isDigit_of_mem_toDigits (by decide) (by decide) h

theorem numeral_ne_nil (n : Nat) : numeral n ≠ [] := Nat.toDigits_ne_nil

theorem digits?_numeral (n : Nat) : digits? (numeral n) = some n :=
  digits?_eq_some_iff.2 ⟨numeral_ne_nil n, fun _ => isDigit_of_mem_numeral, value_numeral n⟩

theorem digitChar_of_isDigit {c : Char} (h : c.isDigit = true) :
    c.toNat - 48 < 10 ∧ Nat.digitChar (c.toNat - 48) = c := by
  have hrange : 48 ≤ c.toNat ∧ c.toNat ≤ 57 := by
    simpa [Char.isDigit, UInt32.le_iff_toNat_le] using h
  have hall : ∀ d < 10, Nat.digitChar d = Char.ofNat (d + 48) := by decide
  have hlt : c.toNat - 48 < 10 := by omega
  have hback : c.toNat - 48 + 48 = c.toNat := by omega
  exact ⟨hlt, by rw [hall _ hlt, hback, Char.ofNat_toNat]⟩

theorem value_pos {cs : List Char} (hdigits : ∀ c ∈ cs, c.isDigit = true) (hne : cs ≠ [])
    (hhead : cs.head? ≠ some '0') : 0 < value cs := by
  induction cs using List.reverseRecOn with
  | nil => exact absurd rfl hne
  | append_singleton cs c ih =>
    rw [value_append_singleton]
    by_cases hcs : cs = []
    · subst hcs
      obtain ⟨-, hc⟩ := digitChar_of_isDigit (hdigits c (by simp))
      have hzero : c.toNat - 48 ≠ 0 := by
        intro h
        rw [h] at hc
        exact hhead (congrArg some hc.symm)
      omega
    · have hfront : cs.head? ≠ some '0' := by
        rwa [List.head?_append_of_ne_nil _ hcs] at hhead
      have hpos := ih (fun d hd => hdigits d (List.mem_append_left _ hd)) hcs hfront
      omega

/-- Digits without a zero in front are the numeral of their value; a zero may stand alone. -/
theorem numeral_value {cs : List Char} (hdigits : ∀ c ∈ cs, c.isDigit = true) (hne : cs ≠ [])
    (hhead : cs.length = 1 ∨ cs.head? ≠ some '0') : numeral (value cs) = cs := by
  induction cs using List.reverseRecOn with
  | nil => exact absurd rfl hne
  | append_singleton cs c ih =>
    obtain ⟨hlt, hc⟩ := digitChar_of_isDigit (hdigits c (by simp))
    have hlast : Nat.toDigits 10 (c.toNat - 48) = [c] := by rw [Nat.toDigits_of_lt_base hlt, hc]
    rw [value_append_singleton, numeral]
    by_cases hcs : cs = []
    · subst hcs
      simpa using hlast
    · have hlength : cs.length ≠ 0 := mt List.length_eq_zero_iff.1 hcs
      have hfront : cs.head? ≠ some '0' := by
        rcases hhead with h | h
        · rw [List.length_append, List.length_singleton] at h
          omega
        · rwa [List.head?_append_of_ne_nil _ hcs] at h
      have hmem : ∀ d ∈ cs, d.isDigit = true := fun d hd => hdigits d (List.mem_append_left _ hd)
      rw [← Nat.toDigits_append_toDigits (by decide) (value_pos hmem hcs hfront) hlt, hlast]
      exact congrArg (· ++ [c]) (ih hmem hcs (.inr hfront))

end Decimal

namespace Ip

/-! ## Octets -/

theorem length_octetText_le (o : UInt8) : (octetText o).length ≤ 3 :=
  (Nat.length_toDigits_le_iff (by decide) (by decide)).2 (o.toNat_lt.trans (by decide))

theorem octetText_zero_alone {o : UInt8} (h : (octetText o).head? = some '0') :
    (octetText o).length = 1 := by
  have hlt : o.toNat < 256 := o.toNat_lt
  have hall : ∀ n < 256, (Decimal.numeral n).head? = some '0' → (Decimal.numeral n).length = 1 := by
    decide +kernel
  exact hall _ hlt h

/-- An octet has one text. -/
theorem octet?_eq_some_iff {cs : List Char} {o : UInt8} :
    octet? cs = some o ↔ cs = octetText o := by
  constructor
  · intro h
    unfold octet? at h
    split at h
    · next hshape =>
      obtain ⟨n, hn, rfl⟩ := Option.map_eq_some_iff.1 h
      obtain ⟨hdigits, hlt⟩ := Option.filter_eq_some_iff.1 hn
      obtain ⟨hne, hall, rfl⟩ := Decimal.digits?_eq_some_iff.1 hdigits
      have hvalue : (UInt8.ofNat (Decimal.value cs)).toNat = Decimal.value cs :=
        UInt8.toNat_ofNat_of_lt (of_decide_eq_true hlt)
      have hhead : cs.length = 1 ∨ cs.head? ≠ some '0' := by
        simp only [Bool.and_eq_true, Bool.or_eq_true, beq_iff_eq, bne_iff_ne] at hshape
        exact hshape.2
      rw [octetText, hvalue, Decimal.numeral_value hall hne hhead]
    · cases h
  · rintro rfl
    have hlt : decide (o.toNat < 256) = true := decide_eq_true o.toNat_lt
    have hshape : ((octetText o).length ≤ 3 &&
        ((octetText o).length == 1 || (octetText o).head? != some '0')) = true := by
      simp only [Bool.and_eq_true, Bool.or_eq_true, beq_iff_eq, bne_iff_ne, decide_eq_true_eq]
      refine ⟨length_octetText_le o, ?_⟩
      by_cases hzero : (octetText o).head? = some '0'
      · exact .inl (octetText_zero_alone hzero)
      · exact .inr hzero
    rw [octet?, if_pos hshape, octetText, Decimal.digits?_numeral, Option.filter_some, if_pos hlt,
      Option.map_some, UInt8.ofNat_toNat]

theorem isDigit_of_mem_octetText {o : UInt8} {c : Char} (h : c ∈ octetText o) :
    c.isDigit = true :=
  Decimal.isDigit_of_mem_numeral h

theorem octetText_ne_nil (o : UInt8) : octetText o ≠ [] := Decimal.numeral_ne_nil _

/-! ## Groups -/

/-- A text spells a group: one to four hexadecimal digits that stand for it. -/
structure SpellsGroup (cs : List Char) (g : UInt16) : Prop where
  ne_nil : cs ≠ []
  length_le : cs.length ≤ 4
  isHexDigit : ∀ c ∈ cs, Text.isHexDigit c = true
  value : hexValue cs = g.toNat

theorem hexValue_append_singleton (cs : List Char) (c : Char) :
    hexValue (cs ++ [c]) = 16 * hexValue cs + (Text.hexValue? c).getD 0 := by
  rw [hexValue, List.foldl_append, List.foldl_cons, List.foldl_nil, ← hexValue]

theorem hexValue?_lt (c : Char) : (Text.hexValue? c).getD 0 < 16 := by
  unfold Text.hexValue?
  split
  · next h =>
    have hrange : 48 ≤ c.toNat ∧ c.toNat ≤ 57 := by
      simpa [Char.isDigit, UInt32.le_iff_toNat_le] using h
    simp only [Option.getD_some, Char.reduceToNat]
    omega
  · split
    · next h =>
      have hrange : 97 ≤ c.toNat ∧ c.toNat ≤ 102 := by
        simpa [Char.le_def, UInt32.le_iff_toNat_le] using h
      simp only [Option.getD_some, Char.reduceToNat]
      omega
    · split
      · next h =>
        have hrange : 65 ≤ c.toNat ∧ c.toNat ≤ 70 := by
          simpa [Char.le_def, UInt32.le_iff_toNat_le] using h
        simp only [Option.getD_some, Char.reduceToNat]
        omega
      · simp

theorem hexValue_lt (cs : List Char) : hexValue cs < 16 ^ cs.length := by
  induction cs using List.reverseRecOn with
  | nil => decide
  | append_singleton cs c ih =>
    have hc := hexValue?_lt c
    rw [hexValue_append_singleton, List.length_append, List.length_singleton, Nat.pow_succ]
    omega

theorem group?_eq_some_iff {cs : List Char} {g : UInt16} :
    group? cs = some g ↔ SpellsGroup cs g := by
  unfold group?
  constructor
  · intro h
    split at h
    · next hshape =>
      simp only [Bool.and_eq_true, Bool.not_eq_true', List.isEmpty_eq_false_iff, decide_eq_true_eq,
        List.all_eq_true] at hshape
      obtain ⟨⟨hne, hlength⟩, hdigits⟩ := hshape
      have hlt : hexValue cs < 65536 :=
        (hexValue_lt cs).trans_le (Nat.pow_le_pow_right (by decide) hlength)
      cases h
      exact ⟨hne, hlength, hdigits, (UInt16.toNat_ofNat_of_lt hlt).symm⟩
    · cases h
  · intro h
    have hshape : (!cs.isEmpty && cs.length ≤ 4 && cs.all Text.isHexDigit) = true := by
      simp only [Bool.and_eq_true, Bool.not_eq_true', List.isEmpty_eq_false_iff, decide_eq_true_eq,
        List.all_eq_true]
      exact ⟨⟨h.ne_nil, h.length_le⟩, h.isHexDigit⟩
    rw [if_pos hshape, h.value, UInt16.ofNat_toNat]

theorem hexDigit_digitChar : ∀ d < 16,
    Text.isHexDigit (Nat.digitChar d) = true ∧ (Text.hexValue? (Nat.digitChar d)).getD 0 = d := by
  decide

theorem hexValue_toDigits (n : Nat) :
    hexValue (Nat.toDigits 16 n) = n ∧ ∀ c ∈ Nat.toDigits 16 n, Text.isHexDigit c = true := by
  induction n using Nat.strongRecOn with
  | ind n ih =>
    rw [Nat.toDigits_eq_if (by decide)]
    split
    · next hlt =>
      obtain ⟨hhex, hvalue⟩ := hexDigit_digitChar n hlt
      refine ⟨?_, fun c hc => ?_⟩
      · rw [← List.nil_append [n.digitChar], hexValue_append_singleton, hvalue]
        simp [hexValue]
      · rw [List.mem_singleton.1 hc, hhex]
    · next hge =>
      obtain ⟨hhex, hvalue⟩ := hexDigit_digitChar (n % 16) (Nat.mod_lt _ (by decide))
      obtain ⟨ihvalue, ihhex⟩ := ih (n / 16) (by omega)
      refine ⟨?_, fun c hc => ?_⟩
      · rw [hexValue_append_singleton, ihvalue, hvalue]
        omega
      · rcases List.mem_append.1 hc with hc | hc
        · exact ihhex c hc
        · rw [List.mem_singleton.1 hc, hhex]

theorem spellsGroup_groupText (g : UInt16) : SpellsGroup (groupText g) g where
  ne_nil := Nat.toDigits_ne_nil
  length_le := (Nat.length_toDigits_le_iff (by decide) (by decide)).2 g.toNat_lt
  isHexDigit := (hexValue_toDigits g.toNat).2
  value := (hexValue_toDigits g.toNat).1

/-! ## Joining -/

section Joining

variable {sep : Char}

theorem joinWith_cons_of_ne {parts : List (List Char)} (h : parts ≠ []) (part : List Char) :
    joinWith sep (part :: parts) = part ++ sep :: joinWith sep parts := by
  cases parts with
  | nil => exact absurd rfl h
  | cons next parts => rfl

/-- Parts without the separator come back from the text into which they are joined. -/
theorem split_joinWith {parts : List (List Char)} (hne : parts ≠ [])
    (hsep : ∀ part ∈ parts, sep ∉ part) : Text.split (· == sep) (joinWith sep parts) = parts := by
  induction parts with
  | nil => exact absurd rfl hne
  | cons part parts ih =>
    have hpart : sep ∉ part := hsep part List.mem_cons_self
    by_cases hparts : parts = []
    · subst hparts
      exact Text.split_of_not_mem hpart
    · rw [joinWith_cons_of_ne hparts, Text.split_append hpart,
        ih hparts fun p hp => hsep p (List.mem_cons_of_mem _ hp)]

theorem joinWith_split (cs : List Char) : joinWith sep (Text.split (· == sep) cs) = cs := by
  induction cs with
  | nil => rfl
  | cons c cs ih =>
    have hne := Text.split_ne_nil (· == sep) cs
    unfold Text.split
    split
    · next hc => rw [joinWith_cons_of_ne hne, ih, beq_iff_eq.1 hc, List.nil_append]
    · split
      · next hnil => exact absurd hnil hne
      · next piece pieces hcs =>
        rw [hcs] at ih
        cases pieces with
        | nil => exact congrArg (c :: ·) ih
        | cons next pieces => exact congrArg (c :: ·) ih

theorem mem_joinWith {parts : List (List Char)} {c : Char} (h : c ∈ joinWith sep parts) :
    c = sep ∨ ∃ part ∈ parts, c ∈ part := by
  induction parts with
  | nil => cases h
  | cons part parts ih =>
    by_cases hparts : parts = []
    · subst hparts
      exact .inr ⟨part, List.mem_cons_self, h⟩
    · rw [joinWith_cons_of_ne hparts, List.mem_append, List.mem_cons] at h
      rcases h with h | h | h
      · exact .inr ⟨part, List.mem_cons_self, h⟩
      · exact .inl h
      · rcases ih h with h | ⟨p, hp, hc⟩
        · exact .inl h
        · exact .inr ⟨p, List.mem_cons_of_mem _ hp, hc⟩

end Joining

end Ip

end SpamVerdict
