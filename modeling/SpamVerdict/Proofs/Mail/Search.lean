import SpamVerdict.Mail.Header
import SpamVerdict.Proofs.Text.Cutting
import SpamVerdict.Proofs.Text.Fold
import SpamVerdict.Proofs.Text.Words
import Mathlib.Data.List.Forall2
set_option autoImplicit false

/-!
# Searching a text (SPEC_FULL §4.1)

A search goes from left to right.  Where a pattern matches nowhere in the front of a text, the
search starts behind that front (`captures_append`), and where it matches it goes on behind the
match (`captures_of_match`).  The phrase that announces an address is put as a grammar
(`StartsPhrase`), so that a text without it is told by its characters alone
(`captures_senderPhrase_eq_nil_iff`).

The phrase is the generic pattern "sender IP is [...]" of SPEC_FULL §4.1, step 2.
-/

namespace SpamVerdict.Mail

/-! ## Captures -/

section Captures

variable {p : Pattern} {before : Option Char}

theorem getLast?_cons_or (c : Char) (front : List Char) (before : Option Char) :
    (c :: front).getLast?.or before = front.getLast?.or (some c) := by
  rw [List.getLast?_cons, Option.some_or]
  cases front.getLast? <;> rfl

/-- A front in which no match starts is passed over. -/
theorem captures_append {front rest : List Char}
    (h : ∀ u v, front = u ++ v → v ≠ [] → p (u.getLast?.or before) (v ++ rest) = none) :
    captures p before (front ++ rest) = captures p (front.getLast?.or before) rest := by
  induction front generalizing before with
  | nil => rfl
  | cons c front ih =>
    have hmiss : p before (c :: (front ++ rest)) = none := h [] (c :: front) rfl (by simp)
    have hnext : ∀ u v, front = u ++ v → v ≠ [] →
        p (u.getLast?.or (some c)) (v ++ rest) = none := by
      rintro u v rfl hv
      rw [← getLast?_cons_or c u before]
      exact h (c :: u) v rfl hv
    rw [List.cons_append, captures, hmiss, getLast?_cons_or]
    exact ih hnext

/-- Behind a match the search goes on. -/
theorem captures_of_match {found capture after : List Char} (hne : found ≠ [])
    (h : p before (found ++ after) = some (capture, after)) :
    captures p before (found ++ after) = capture :: captures p found.getLast? after := by
  obtain ⟨c, found, rfl⟩ := List.exists_cons_of_ne_nil hne
  rw [List.cons_append] at h ⊢
  have hshorter : after.length < (found ++ after).length + 1 := by
    rw [List.length_append]
    omega
  have hindex : (found ++ after).length - after.length = found.length := by simp
  have hlast : (c :: (found ++ after))[found.length]? = (c :: found).getLast? := by
    rw [List.getLast?_eq_getElem?, ← List.cons_append, List.getElem?_append_left (by simp)]
    rfl
  rw [captures, h]
  simp only [hshorter, if_true, hindex, hlast]

/-- Nothing is captured exactly if the pattern matches nowhere. -/
theorem captures_eq_nil_iff {cs : List Char} :
    captures p before cs = [] ↔
      ∀ u v, cs = u ++ v → v ≠ [] → p (u.getLast?.or before) v = none := by
  constructor
  · intro h
    fun_induction captures p before cs with
    | case1 before =>
      intro u v hcs hv
      exact absurd (List.append_eq_nil_iff.1 hcs.symm).2 hv
    | case2 before c rest hnone ih =>
      intro u v hcs hv
      cases u with
      | nil =>
        rw [List.nil_append] at hcs
        rw [← hcs]
        exact hnone
      | cons d u =>
        obtain ⟨rfl, hrest⟩ := List.cons.inj hcs
        rw [getLast?_cons_or]
        exact ih h u v hrest hv
    | case3 => cases h
    | case4 => cases h
  · intro h
    have hpassed : captures p before (cs ++ []) = captures p (cs.getLast?.or before) [] :=
      captures_append (by simpa using h)
    rw [List.append_nil] at hpassed
    rw [hpassed, captures]

end Captures

/-! ## The phrase -/

/-- Characters read a word of small letters, one each, in either case. -/
def ReadsWord (word cs : List Char) : Prop :=
  List.Forall₂ (fun letter c => matchesLetter letter c = true) word cs

/-- A gap between words: blanks, at least one. -/
structure IsGap (cs : List Char) : Prop where
  ne_nil : cs ≠ []
  blank : ∀ c ∈ cs, Text.isBlank c = true

/-- A text starts with the phrase that announces an address: the words "sender", "ip" and "is", each
with a gap behind it, and with or without a bracket the first character of an address. -/
inductive StartsPhrase : List Char → Prop where
  | mk {sender gap ip gap' is gap'' bracket rest : List Char} {c : Char}
      (hsender : ReadsWord "sender".toList sender) (hgap : IsGap gap)
      (hip : ReadsWord "ip".toList ip) (hgap' : IsGap gap') (his : ReadsWord "is".toList is)
      (hgap'' : IsGap gap'') (hbracket : bracket = [] ∨ bracket = ['['])
      (hc : isAddressChar c = true) :
      StartsPhrase (sender ++ (gap ++ (ip ++ (gap' ++ (is ++ (gap'' ++ (bracket ++ c :: rest)))))))

/-- The phrase stands somewhere in a text. -/
def HoldsPhrase (block : List Char) : Prop :=
  ∃ front back, block = front ++ back ∧ StartsPhrase back

/-- No word is read where its first letter does not stand. -/
theorem not_readsWord_cons {letter c : Char} {word cs : List Char}
    (hc : matchesLetter letter c = false) : ¬ ReadsWord (letter :: word) (c :: cs) := by
  intro h
  cases h with
  | cons htrue _ =>
    rw [hc] at htrue
    cases htrue

theorem afterWord?_eq_some_iff {word cs rest : List Char} :
    afterWord? word cs = some rest ↔ ∃ read, cs = read ++ rest ∧ ReadsWord word read := by
  induction word generalizing cs with
  | nil =>
    constructor
    · intro h
      exact ⟨[], Option.some.inj h, .nil⟩
    · rintro ⟨read, rfl, hread⟩
      cases hread
      rfl
  | cons letter word ih =>
    constructor
    · intro h
      cases cs with
      | nil => cases h
      | cons c cs =>
        unfold afterWord? at h
        split at h
        · next hc =>
          obtain ⟨read, rfl, hread⟩ := ih.1 h
          exact ⟨c :: read, rfl, .cons hc hread⟩
        · cases h
    · rintro ⟨read, rfl, hread⟩
      cases hread with
      | cons hc hread =>
        rw [List.cons_append, afterWord?, if_pos hc]
        exact ih.2 ⟨_, rfl, hread⟩

theorem afterBlanks?_eq_some_iff {cs rest : List Char} :
    afterBlanks? cs = some rest ↔ ∃ gap, cs = gap ++ rest ∧ IsGap gap ∧
      ∀ c, rest.head? = some c → Text.isBlank c = false := by
  constructor
  · intro h
    cases cs with
    | nil => cases h
    | cons c cs =>
      rw [afterBlanks?] at h
      split at h
      · next hc =>
        cases h
        refine ⟨c :: cs.takeWhile Text.isBlank, ?_, ⟨by simp, ?_⟩, fun d hd => ?_⟩
        · rw [List.cons_append, List.takeWhile_append_dropWhile]
        · exact List.forall_mem_cons.2 ⟨hc, fun d hd => List.mem_takeWhile_imp hd⟩
        · exact Text.head?_dropWhile hd
      · cases h
  · rintro ⟨gap, rfl, hgap, hrest⟩
    obtain ⟨c, gap, rfl⟩ := List.exists_cons_of_ne_nil hgap.ne_nil
    obtain ⟨hc, hblank⟩ := List.forall_mem_cons.1 hgap.blank
    rw [List.cons_append, afterBlanks?, if_pos hc, Text.dropWhile_append_of_head? hblank hrest]

theorem isBlank_of_readsWord {word cs : List Char} (hword : word.any Text.isBlank = false)
    (h : ReadsWord word cs) : ∀ c ∈ cs, Text.isBlank c = false := by
  induction h with
  | nil => simp
  | @cons letter c word cs hc _ ih =>
    obtain ⟨hletter, hrest⟩ := Bool.or_eq_false_iff.1 hword
    refine List.forall_mem_cons.2 ⟨?_, ih hrest⟩
    rw [matchesLetter, Bool.or_eq_true, Bool.and_eq_true, beq_iff_eq, beq_iff_eq, beq_iff_eq] at hc
    rcases hc with rfl | ⟨-, rfl⟩
    · rwa [Text.isBlank_toLower] at hletter
    · decide

theorem isBlank_of_isAddressChar {c : Char} (h : isAddressChar c = true) :
    Text.isBlank c = false := by
  rw [isAddressChar, Bool.or_eq_true, Bool.or_eq_true, beq_iff_eq, beq_iff_eq] at h
  rcases h with (hhex | rfl) | rfl
  · exact Text.of_isHexDigit (p := fun c => Text.isBlank c = false) (by decide) hhex
  · decide
  · decide

/-- No blank stands in front of a word. -/
theorem head?_not_blank_of_readsWord {word read rest : List Char} (hne : word ≠ [])
    (hword : word.any Text.isBlank = false) (h : ReadsWord word read) :
    ∀ c, (read ++ rest).head? = some c → Text.isBlank c = false := by
  cases h with
  | nil => exact absurd rfl hne
  | @cons letter d word read hd hread =>
    rintro c hc
    obtain rfl := Option.some.inj hc
    exact isBlank_of_readsWord hword (.cons hd hread) _ List.mem_cons_self

/-- No blank stands in front of an address and its bracket. -/
theorem head?_not_blank_of_isAddressChar {bracket rest : List Char} {c : Char}
    (hbracket : bracket = [] ∨ bracket = ['[']) (hc : isAddressChar c = true) :
    ∀ d, (bracket ++ c :: rest).head? = some d → Text.isBlank d = false := by
  rintro d hd
  rcases hbracket with rfl | rfl
  · obtain rfl := Option.some.inj hd
    exact isBlank_of_isAddressChar hc
  · obtain rfl := Option.some.inj hd
    decide

/-- With or without a bracket, an address starts a text. -/
theorem takeWhile_dropHead_ne_nil_iff {cs : List Char} :
    (dropHead '[' cs).takeWhile isAddressChar ≠ [] ↔
      ∃ bracket c rest, cs = bracket ++ c :: rest ∧ (bracket = [] ∨ bracket = ['[']) ∧
        isAddressChar c = true := by
  have hstart : ∀ cs : List Char, cs.takeWhile isAddressChar ≠ [] ↔
      ∃ c rest, cs = c :: rest ∧ isAddressChar c = true := by
    intro cs
    cases cs with
    | nil => simp
    | cons c cs => by_cases hc : isAddressChar c = true <;> simp [hc]
  have hopen : isAddressChar '[' = false := by decide
  rw [hstart]
  constructor
  · rintro ⟨c, rest, hcs, hc⟩
    cases cs with
    | nil => cases hcs
    | cons d cs =>
      rw [dropHead] at hcs
      split at hcs
      · next hd => exact ⟨['['], c, rest, by rw [hd, hcs]; rfl, .inr rfl, hc⟩
      · exact ⟨[], c, rest, hcs, .inl rfl, hc⟩
  · rintro ⟨bracket, c, rest, rfl, rfl | rfl, hc⟩
    · have hne : c ≠ '[' := by
        rintro rfl
        rw [hopen] at hc
        cases hc
      exact ⟨c, rest, by rw [List.nil_append, dropHead, if_neg hne], hc⟩
    · exact ⟨c, rest, by rw [List.singleton_append, dropHead, if_pos rfl], hc⟩

/-- The phrase is matched exactly where it starts. -/
theorem senderPhrase_ne_none_iff {before : Option Char} {cs : List Char} :
    senderPhrase before cs ≠ none ↔ StartsPhrase cs := by
  constructor
  · intro h
    obtain ⟨found, hfound⟩ := Option.ne_none_iff_exists'.1 h
    simp only [senderPhrase, Option.bind_eq_bind, Option.bind_eq_some_iff, afterWord?_eq_some_iff,
      afterBlanks?_eq_some_iff] at hfound
    obtain ⟨_, ⟨sender, rfl, hsender⟩, _, ⟨gap, rfl, hgap, -⟩, _, ⟨ip, rfl, hip⟩, _,
      ⟨gap', rfl, hgap', -⟩, _, ⟨is, rfl, his⟩, rest, ⟨gap'', rfl, hgap'', -⟩, hfound⟩ := hfound
    split at hfound
    · cases hfound
    · next hne =>
      obtain ⟨bracket, c, rest, rfl, hbracket, hc⟩ :=
        takeWhile_dropHead_ne_nil_iff.1 (mt List.isEmpty_iff.2 hne)
      exact .mk hsender hgap hip hgap' his hgap'' hbracket hc
  · rintro @⟨_, _, _, _, _, _, bracket, rest, c, hsender, hgap, hip, hgap', his, hgap'',
      hbracket, hc⟩
    have hword : ∀ {word read : List Char} (rest : List Char), ReadsWord word read →
        afterWord? word (read ++ rest) = some rest :=
      fun rest hread => afterWord?_eq_some_iff.2 ⟨_, rfl, hread⟩
    have hblanks : ∀ {gap rest : List Char}, IsGap gap →
        (∀ c, rest.head? = some c → Text.isBlank c = false) →
        afterBlanks? (gap ++ rest) = some rest :=
      fun hgap hrest => afterBlanks?_eq_some_iff.2 ⟨_, rfl, hgap, hrest⟩
    have haddress : (dropHead '[' (bracket ++ c :: rest)).takeWhile isAddressChar ≠ [] :=
      takeWhile_dropHead_ne_nil_iff.2 ⟨bracket, c, rest, rfl, hbracket, hc⟩
    simp only [senderPhrase, Option.bind_eq_bind, Option.bind_some, hword _ hsender, hword _ hip,
      hword _ his, hblanks hgap (head?_not_blank_of_readsWord (by decide) (by decide) hip),
      hblanks hgap' (head?_not_blank_of_readsWord (by decide) (by decide) his),
      hblanks hgap'' (head?_not_blank_of_isAddressChar hbracket hc)]
    rw [if_neg (mt List.isEmpty_iff.1 haddress)]
    exact Option.some_ne_none _

/-- Nothing is found behind the phrase exactly if a text does not hold it. -/
theorem captures_senderPhrase_eq_nil_iff {block : List Char} :
    captures senderPhrase none block = [] ↔ ¬ HoldsPhrase block := by
  rw [captures_eq_nil_iff]
  constructor
  · rintro hnone ⟨front, back, hblock, hstarts⟩
    have hne : back ≠ [] := by
      rintro rfl
      exact absurd rfl (senderPhrase_ne_none_iff.2 hstarts : senderPhrase none [] ≠ none)
    exact senderPhrase_ne_none_iff.2 hstarts (hnone front back hblock hne)
  · intro hnot front back hblock _
    by_contra hfound
    exact hnot ⟨front, back, hblock, senderPhrase_ne_none_iff.1 hfound⟩

theorem words_append_gap {gap : List Char} (hgap : IsGap gap) (cs rest : List Char) :
    Text.words (cs ++ (gap ++ rest)) = Text.words cs ++ Text.words rest := by
  obtain ⟨c, gap, rfl⟩ := List.exists_cons_of_ne_nil hgap.ne_nil
  obtain ⟨hc, hblank⟩ := List.forall_mem_cons.1 hgap.blank
  rw [List.cons_append, Text.words_append_cons hc, Text.words_append_of_isBlank hblank]

theorem words_of_readsWord {word read : List Char} (hne : word ≠ [])
    (hword : word.any Text.isBlank = false) (h : ReadsWord word read) :
    Text.words read = [read] := by
  refine Text.words_of_forall ?_ (isBlank_of_readsWord hword h)
  rintro rfl
  cases h
  exact hne rfl

/-- The phrase takes two words of a text, one right behind the other. -/
theorem HoldsPhrase.exists_words {block : List Char} (h : HoldsPhrase block) :
    ∃ front ip is back, Text.words block = front ++ ip :: is :: back ∧
      ReadsWord "ip".toList ip ∧ ReadsWord "is".toList is := by
  obtain ⟨front, _, rfl, hstarts⟩ := h
  cases hstarts with
  | @mk sender gap ip gap' is gap'' bracket rest c _ hgap hip hgap' his hgap'' _ _ =>
    refine ⟨Text.words (front ++ sender), ip, is, Text.words (bracket ++ c :: rest), ?_, hip, his⟩
    rw [← List.append_assoc, words_append_gap hgap, words_append_gap hgap',
      words_of_readsWord (by decide) (by decide) hip, words_append_gap hgap'',
      words_of_readsWord (by decide) (by decide) his]
    rfl

end SpamVerdict.Mail
