import SpamVerdict.Text.Blank
set_option autoImplicit false

/-!
# The words of a text

Blanks at the ends of a text are no part of any word, so trimming leaves the words as they are
(`words_trimOf`), and a trimmed text starts with its first word (`exists_trimOf_eq_append`).
-/

namespace SpamVerdict.Text

theorem split_cons_of_false {p : Char → Bool} {c : Char} {cs piece : List Char}
    {pieces : List (List Char)} (hc : p c = false) (hcs : split p cs = piece :: pieces) :
    split p (c :: cs) = (c :: piece) :: pieces := by
  rw [split, hc, hcs]
  rfl

/-- The pieces around a separator are those on either side of it. -/
theorem split_append_cons {p : Char → Bool} {c : Char} (hc : p c = true) (cs rest : List Char) :
    split p (cs ++ c :: rest) = split p cs ++ split p rest := by
  induction cs with
  | nil => simp [split, hc]
  | cons d cs ih =>
    cases hd : p d with
    | true => simp [split, hd, ih]
    | false =>
      obtain ⟨piece, pieces, hcs⟩ := List.exists_cons_of_ne_nil (split_ne_nil p cs)
      have hlong : split p (cs ++ c :: rest) = piece :: (pieces ++ split p rest) := by
        rw [ih, hcs, List.cons_append]
      rw [List.cons_append, split_cons_of_false hd hlong, split_cons_of_false hd hcs,
        List.cons_append]

theorem split_of_forall {p : Char → Bool} {cs : List Char} (h : ∀ c ∈ cs, p c = false) :
    split p cs = [cs] := by
  induction cs with
  | nil => rfl
  | cons c cs ih =>
    obtain ⟨hc, hcs⟩ := List.forall_mem_cons.1 h
    exact split_cons_of_false hc (ih hcs)

/-- A blank parts the words in front of it from those behind it. -/
theorem words_append_cons {c : Char} (hc : isBlank c = true) (cs rest : List Char) :
    words (cs ++ c :: rest) = words cs ++ words rest := by
  simp [words, split_append_cons hc]

theorem words_of_forall {cs : List Char} (hne : cs ≠ []) (h : ∀ c ∈ cs, isBlank c = false) :
    words cs = [cs] := by
  simp [words, split_of_forall h, hne]

theorem words_cons_of_isBlank {c : Char} (hc : isBlank c = true) (cs : List Char) :
    words (c :: cs) = words cs := by
  simp [words, split, hc]

theorem words_append_of_isBlank {gap : List Char} (h : ∀ c ∈ gap, isBlank c = true)
    (rest : List Char) : words (gap ++ rest) = words rest := by
  induction gap with
  | nil => rfl
  | cons c gap ih =>
    obtain ⟨hc, hgap⟩ := List.forall_mem_cons.1 h
    rw [List.cons_append, words_cons_of_isBlank hc, ih hgap]

theorem words_concat_of_isBlank {c : Char} (hc : isBlank c = true) (cs : List Char) :
    words (cs ++ [c]) = words cs := by
  rw [words_append_cons hc]
  exact List.append_nil _

theorem words_dropWhile (cs : List Char) : words (cs.dropWhile isBlank) = words cs := by
  induction cs with
  | nil => rfl
  | cons c cs ih =>
    by_cases hc : isBlank c = true
    · rw [List.dropWhile_cons_of_pos hc, ih, words_cons_of_isBlank hc]
    · rw [List.dropWhile_cons_of_neg hc]

theorem words_trimEndOf (cs : List Char) : words (trimEndOf isBlank cs) = words cs := by
  have hrev : ∀ rev : List Char, words (rev.dropWhile isBlank).reverse = words rev.reverse := by
    intro rev
    induction rev with
    | nil => rfl
    | cons c rev ih =>
      by_cases hc : isBlank c = true
      · rw [List.dropWhile_cons_of_pos hc, ih, List.reverse_cons, words_concat_of_isBlank hc]
      · rw [List.dropWhile_cons_of_neg hc]
  rw [trimEndOf, hrev, List.reverse_reverse]

/-- Trimming takes no word away. -/
theorem words_trimOf (cs : List Char) : words (trimOf isBlank cs) = words cs := by
  rw [trimOf, words_trimEndOf, words_dropWhile]

theorem exists_eq_append_of_split {p : Char → Bool} {cs piece : List Char}
    {pieces : List (List Char)} (h : split p cs = piece :: pieces) :
    ∃ rest, cs = piece ++ rest := by
  induction cs generalizing piece pieces with
  | nil =>
    cases h
    exact ⟨[], rfl⟩
  | cons c cs ih =>
    cases hc : p c with
    | true =>
      rw [split, hc] at h
      cases h
      exact ⟨c :: cs, rfl⟩
    | false =>
      obtain ⟨first, others, hcs⟩ := List.exists_cons_of_ne_nil (split_ne_nil p cs)
      rw [split_cons_of_false hc hcs] at h
      cases h
      obtain ⟨rest, hrest⟩ := ih hcs
      exact ⟨rest, by rw [hrest, List.cons_append]⟩

/-- A trimmed text starts with no blank. -/
theorem isBlank_head_trimOf {c : Char} {cs rest : List Char} (h : trimOf isBlank cs = c :: rest) :
    isBlank c = false := by
  unfold trimOf at h
  cases hdrop : cs.dropWhile isBlank with
  | nil =>
    rw [hdrop] at h
    cases h
  | cons d ds =>
    have hd : isBlank d = false := by
      have hhead := List.head?_dropWhile_not isBlank cs
      simpa [hdrop] using hhead
    rw [hdrop, trimEndOf_cons ds hd] at h
    cases h
    exact hd

theorem exists_trimOf_eq_append {cs word : List Char} {others : List (List Char)}
    (h : words cs = word :: others) : ∃ rest, trimOf isBlank cs = word ++ rest := by
  rw [← words_trimOf] at h
  cases htrim : trimOf isBlank cs with
  | nil =>
    rw [htrim] at h
    cases h
  | cons c ds =>
    have hc : isBlank c = false := isBlank_head_trimOf htrim
    obtain ⟨piece, pieces, hds⟩ := List.exists_cons_of_ne_nil (split_ne_nil isBlank ds)
    have hsplit := split_cons_of_false hc hds
    rw [htrim, words, hsplit, List.filter_cons_of_pos (by rfl)] at h
    cases h
    exact exists_eq_append_of_split hsplit

end SpamVerdict.Text
