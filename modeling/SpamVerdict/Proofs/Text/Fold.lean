import SpamVerdict.Text.Blank
import SpamVerdict.Text.CharClass
set_option autoImplicit false

/-!
# What ASCII case cannot change

Putting the ASCII letters of a text into lower case moves no blank, no digit and no punctuation.
So every reading that looks for those commutes with it: trimming, cutting into words, cutting at a
separator and looking for a keyword.  The conversion of a whole text into lower case does not see
it at all (`lowerChars_map_toLower`): even the capital sigma, whose form depends on its neighbours,
asks of them only whether they have case.

What holds of every ASCII character, or of those of one class, is checked for each of them
(`forall_ascii`, `of_isHexDigit`, `apply_toLower`).
-/

namespace SpamVerdict.Text

/-! ## Characters -/

theorem forall_ascii {p : Char → Prop} (h : ∀ n < 128, p (Char.ofNat n)) {c : Char}
    (hc : c.toNat < 128) : p c := by
  have hchar := h c.toNat hc
  rwa [Char.ofNat_toNat] at hchar

theorem toNat_lt_of_isAlpha {c : Char} (h : c.isAlpha = true) : c.toNat < 128 := by
  rcases Bool.or_eq_true_iff.1 h with hupper | hlower
  · have hz := (of_decide_eq_true hupper).2
    exact Nat.lt_of_le_of_lt (UInt32.le_iff_toNat_le.1 hz) (by decide)
  · have hz := of_decide_eq_true (Bool.and_eq_true_iff.1 hlower).2
    exact Nat.lt_of_le_of_lt (UInt32.le_iff_toNat_le.1 hz) (by decide)

theorem toNat_lt_of_isHexDigit {c : Char} (h : isHexDigit c = true) : c.toNat < 128 := by
  have hrange : (48 ≤ c.toNat ∧ c.toNat ≤ 57 ∨ 97 ≤ c.toNat ∧ c.toNat ≤ 102) ∨
      65 ≤ c.toNat ∧ c.toNat ≤ 70 := by
    simpa [isHexDigit, Char.isDigit, Char.le_def, UInt32.le_iff_toNat_le] using h
  omega

theorem of_isHexDigit {p : Char → Prop}
    (h : ∀ n < 128, isHexDigit (Char.ofNat n) = true → p (Char.ofNat n)) {c : Char}
    (hc : isHexDigit c = true) : p c :=
  forall_ascii (p := fun c => isHexDigit c = true → p c) h (toNat_lt_of_isHexDigit hc) hc

/-- The capital letters of ASCII. -/
def asciiCapitals : List Char := (List.range' 65 26).map Char.ofNat

theorem toLower_eq_self_or_mem (c : Char) : c.toLower = c ∨ c ∈ asciiCapitals := by
  by_cases h : 65 ≤ c.toNat ∧ c.toNat ≤ 90
  · refine .inr (List.mem_map.2 ⟨c.toNat, ?_, Char.ofNat_toNat c⟩)
    rw [List.mem_range'_1]
    omega
  · refine .inl ?_
    unfold Char.toLower
    rw [dif_neg]
    rintro ⟨hlow, hhigh⟩
    exact h ⟨UInt32.le_iff_toNat_le.1 hlow, UInt32.le_iff_toNat_le.1 hhigh⟩

/-- A function of characters that takes each capital for its small letter sees no ASCII case. -/
theorem apply_toLower {α : Type} {f : Char → α}
    (h : asciiCapitals.map (fun c => f c.toLower) = asciiCapitals.map f) (c : Char) :
    f c.toLower = f c := by
  rcases toLower_eq_self_or_mem c with hc | hc
  · rw [hc]
  · exact List.map_inj_left.1 h c hc

@[simp] theorem toLower_toLower (c : Char) : c.toLower.toLower = c.toLower :=
  apply_toLower (f := Char.toLower) (by decide) c

@[simp] theorem isBlank_toLower (c : Char) : isBlank c.toLower = isBlank c :=
  apply_toLower (by decide) c

@[simp] theorem isDigit_toLower (c : Char) : c.toLower.isDigit = c.isDigit :=
  apply_toLower (f := Char.isDigit) (by decide) c

@[simp] theorem isHexDigit_toLower (c : Char) : isHexDigit c.toLower = isHexDigit c :=
  apply_toLower (by decide) c

@[simp] theorem hexValue?_toLower (c : Char) : hexValue? c.toLower = hexValue? c :=
  apply_toLower (by decide) c

@[simp] theorem isCased_toLower (c : Char) : isCased c.toLower = isCased c :=
  apply_toLower (by decide) c

@[simp] theorem isCaseIgnorable_toLower (c : Char) :
    isCaseIgnorable c.toLower = isCaseIgnorable c :=
  apply_toLower (by decide) c

@[simp] theorem lowerChar_toLower (c : Char) : lowerChar c.toLower = lowerChar c :=
  apply_toLower (by decide) c

/-- A character that is no ASCII letter is put into lower case from itself alone. -/
theorem toLower_eq_iff {d : Char}
    (hd : asciiCapitals.map (fun c => c.toLower == d) = asciiCapitals.map (· == d)) (c : Char) :
    c.toLower = d ↔ c = d := by
  have hsame : (c.toLower == d) = (c == d) := apply_toLower (f := (· == d)) hd c
  rw [← beq_iff_eq, hsame, beq_iff_eq]

/-! ## Trimming and cutting -/

section Cutting

variable {f : Char → Char} {p : Char → Bool} (hp : ∀ c, p (f c) = p c)

include hp

theorem dropWhile_map_of_apply (cs : List Char) :
    (cs.map f).dropWhile p = (cs.dropWhile p).map f := by
  have hcomp : p ∘ f = p := funext hp
  rw [List.dropWhile_map, hcomp]

theorem trimOf_map (cs : List Char) : trimOf p (cs.map f) = (trimOf p cs).map f := by
  simp only [trimOf, trimEndOf, ← List.map_reverse, dropWhile_map_of_apply hp]

theorem split_map (cs : List Char) : split p (cs.map f) = (split p cs).map (List.map f) := by
  induction cs with
  | nil => rfl
  | cons c cs ih =>
    rw [List.map_cons, split, split, hp c, ih]
    split
    · rfl
    · cases split p cs <;> rfl

end Cutting

theorem words_map_toLower (cs : List Char) :
    words (cs.map Char.toLower) = (words cs).map (List.map Char.toLower) := by
  rw [words, split_map isBlank_toLower, List.filter_map, words]
  congr 1
  apply List.filter_congr
  intro word _
  cases word <;> rfl

theorem cut?_map {f : Char → Char} {sep : Char} (hsep : ∀ c, f c = sep ↔ c = sep)
    (cs : List Char) :
    cut? sep (cs.map f) = (cut? sep cs).map (Prod.map (List.map f) (List.map f)) := by
  induction cs with
  | nil => rfl
  | cons c cs ih =>
    rw [List.map_cons, cut?, cut?, ih]
    by_cases hc : c = sep
    · rw [if_pos hc, if_pos ((hsep c).2 hc)]
      rfl
    · rw [if_neg hc, if_neg (mt (hsep c).1 hc)]
      cases cut? sep cs <;> rfl

/-! ## Keywords -/

theorem sameFold_map_toLower (cs keyword : List Char) :
    sameFold (cs.map Char.toLower) keyword = sameFold cs keyword := by
  have hcomp : Char.toLower ∘ Char.toLower = Char.toLower := funext toLower_toLower
  rw [sameFold, List.map_map, hcomp, sameFold]

theorem afterFold?_map_toLower (keyword cs : List Char) :
    afterFold? keyword (cs.map Char.toLower) =
      (afterFold? keyword cs).map (List.map Char.toLower) := by
  induction keyword generalizing cs with
  | nil => rfl
  | cons k ks ih =>
    cases cs with
    | nil => rfl
    | cons c cs =>
      rw [List.map_cons, afterFold?, afterFold?, toLower_toLower]
      split
      · exact ih cs
      · rfl

/-- A keyword that the folded text does not start with is not at the start of the text. -/
theorem afterFold?_eq_none_of_map {keyword cs : List Char}
    (h : afterFold? keyword (cs.map Char.toLower) = none) : afterFold? keyword cs = none := by
  rw [afterFold?_map_toLower] at h
  exact Option.map_eq_none_iff.1 h

/-! ## Lower case -/

theorem leadsToCased_map_toLower (cs : List Char) :
    leadsToCased (cs.map Char.toLower) = leadsToCased cs := by
  unfold leadsToCased
  rw [dropWhile_map_of_apply isCaseIgnorable_toLower]
  cases cs.dropWhile isCaseIgnorable with
  | nil => rfl
  | cons c rest => exact isCased_toLower c

theorem lowerAfter_map_toLower (before cs : List Char) :
    lowerAfter (before.map Char.toLower) (cs.map Char.toLower) = lowerAfter before cs := by
  induction cs generalizing before with
  | nil => rfl
  | cons c cs ih =>
    have hsigma : c.toLower = 'Σ' ↔ c = 'Σ' := toLower_eq_iff (by decide) c
    have hdotted : c.toLower = 'İ' ↔ c = 'İ' := toLower_eq_iff (by decide) c
    have hrest : lowerAfter (c.toLower :: before.map Char.toLower) (cs.map Char.toLower) =
        lowerAfter (c :: before) cs := ih (c :: before)
    rw [List.map_cons, lowerAfter, lowerAfter, hrest]
    simp only [hsigma, hdotted, leadsToCased_map_toLower, lowerChar_toLower]

/-- The lower-case form of a text depends on no ASCII letter's case. -/
theorem lowerChars_map_toLower (cs : List Char) :
    lowerChars (cs.map Char.toLower) = lowerChars cs :=
  lowerAfter_map_toLower [] cs

end SpamVerdict.Text
