import SpamVerdict.Text.Blank
import Mathlib.Data.List.Basic
import Mathlib.Data.List.TakeWhile
set_option autoImplicit false

/-!
# Where a text is cut

Each way of cutting a text is pinned down by the text that is put together again: a piece without
the separator comes back from in front of it (`split_append`), an ended line from in front of its
end (`lines_append`), and trimming leaves the one middle part of a text that has the trimmed
characters at both sides and none of them at its own ends (`trimOf_eq_iff`).

The readers of SPEC_FULL §4.1 and §4.3 cut their texts in no other ways than these.
-/

namespace SpamVerdict.Text

/-! ## Pieces -/

section Pieces

variable {sep : Char} {piece : List Char}

theorem split_of_not_mem (h : sep ∉ piece) : split (· == sep) piece = [piece] := by
  induction piece with
  | nil => rfl
  | cons c cs ih =>
    have hc : (c == sep) = false := beq_false_of_ne (List.ne_of_not_mem_cons h).symm
    simp [split, hc, ih (List.not_mem_of_not_mem_cons h)]

theorem split_append (h : sep ∉ piece) (rest : List Char) :
    split (· == sep) (piece ++ sep :: rest) = piece :: split (· == sep) rest := by
  induction piece with
  | nil => simp [split]
  | cons c cs ih =>
    have hc : (c == sep) = false := beq_false_of_ne (List.ne_of_not_mem_cons h).symm
    simp [split, hc, ih (List.not_mem_of_not_mem_cons h)]

/-- The pieces around a separator are the pieces of the texts at both sides of it. -/
theorem split_append_split (before after : List Char) :
    split (· == sep) (before ++ sep :: after) =
      split (· == sep) before ++ split (· == sep) after := by
  induction before with
  | nil => simp [split]
  | cons c cs ih =>
    rw [List.cons_append, split, split, ih]
    cases hpieces : split (· == sep) cs with
    | nil => exact absurd hpieces (split_ne_nil _ _)
    | cons piece pieces => split <;> rfl

end Pieces

/-! ## In front of a separator -/

/-- The text is cut at the first separator. -/
theorem not_mem_of_cut? {sep : Char} {cs before after : List Char}
    (h : cut? sep cs = some (before, after)) : sep ∉ before := by
  intro hmem
  obtain ⟨front, back, hbefore, hfront⟩ := List.eq_append_cons_of_mem hmem
  have hcs : cs = front ++ sep :: (back ++ sep :: after) := by
    rw [eq_append_of_cut? h, hbefore, List.append_assoc, List.cons_append]
  rw [hcs, cut?_append hfront] at h
  obtain ⟨rfl, -⟩ := Prod.mk.inj (Option.some.inj h)
  exact hfront hmem

/-! ## Runs -/

section Runs

variable {p : Char → Bool}

theorem dropWhile_of_head? {cs : List Char} (h : ∀ c, cs.head? = some c → p c = false) :
    cs.dropWhile p = cs := by
  cases cs with
  | nil => rfl
  | cons c cs => exact List.dropWhile_cons_of_neg (by simp [h c rfl])

theorem takeWhile_of_head? {cs : List Char} (h : ∀ c, cs.head? = some c → p c = false) :
    cs.takeWhile p = [] := by
  cases cs with
  | nil => rfl
  | cons c cs => exact List.takeWhile_cons_of_neg (by simp [h c rfl])

theorem head?_dropWhile {cs : List Char} {c : Char} (h : (cs.dropWhile p).head? = some c) :
    p c = false := by
  have hhead := List.head?_dropWhile_not p cs
  simpa [h] using hhead

/-- A run of characters of class `p` ends where the first other character stands. -/
theorem takeWhile_append_of_head? {run rest : List Char} (hrun : ∀ c ∈ run, p c = true)
    (hrest : ∀ c, rest.head? = some c → p c = false) : (run ++ rest).takeWhile p = run := by
  rw [List.takeWhile_append_of_pos hrun, takeWhile_of_head? hrest, List.append_nil]

theorem dropWhile_append_of_head? {run rest : List Char} (hrun : ∀ c ∈ run, p c = true)
    (hrest : ∀ c, rest.head? = some c → p c = false) : (run ++ rest).dropWhile p = rest := by
  rw [List.dropWhile_append_of_pos hrun, dropWhile_of_head? hrest]

end Runs

/-! ## Lines -/

/-- What may end a line: a line feed, with or without a carriage return in front of it. -/
inductive IsLineEnd : List Char → Prop where
  | feed : IsLineEnd ['\n']
  | returnFeed : IsLineEnd ['\r', '\n']

theorem linesOfPieces_cons {pieces : List (List Char)} (h : pieces ≠ []) (piece : List Char) :
    linesOfPieces (piece :: pieces) = dropReturn piece :: linesOfPieces pieces := by
  cases pieces with
  | nil => exact absurd rfl h
  | cons next pieces => rfl

theorem lines_feed {piece : List Char} (h : '\n' ∉ piece) (rest : List Char) :
    lines (piece ++ '\n' :: rest) = dropReturn piece :: lines rest := by
  rw [lines, split_append h, linesOfPieces_cons (split_ne_nil _ _), lines]

/-- A line is what stands in front of its end, unless it ends with a carriage return itself. -/
theorem lines_append {line lineEnd : List Char} (hend : IsLineEnd lineEnd) (hfeed : '\n' ∉ line)
    (hreturn : line.getLast? ≠ some '\r') (rest : List Char) :
    lines (line ++ (lineEnd ++ rest)) = line :: lines rest := by
  cases hend with
  | feed =>
    have hdrop : dropReturn line = line := if_neg hreturn
    rw [List.singleton_append, lines_feed hfeed, hdrop]
  | returnFeed =>
    have hpiece : '\n' ∉ line ++ ['\r'] := by simp [hfeed]
    have hdrop : dropReturn (line ++ ['\r']) = line := by simp [dropReturn]
    have happend : line ++ (['\r', '\n'] ++ rest) = line ++ ['\r'] ++ '\n' :: rest := by simp
    rw [happend, lines_feed hpiece, hdrop]

/-- What follows the last line feed is a line too, without one at its end. -/
theorem lines_of_not_mem {line : List Char} (hfeed : '\n' ∉ line) (hne : line ≠ []) :
    lines line = [line] := by
  have hempty : line.isEmpty = false := List.isEmpty_eq_false_iff.2 hne
  rw [lines, split_of_not_mem hfeed, linesOfPieces, hempty]
  rfl

/-! ## Trimming -/

/-- No character of class `p` stands at either end of a text. -/
structure BareOf (p : Char → Bool) (cs : List Char) : Prop where
  first : ∀ c, cs.head? = some c → p c = false
  last : ∀ c, cs.getLast? = some c → p c = false

/-- A text is another one with characters of class `p` stripped off both ends, as many as there
are. -/
def StrippedOf (p : Char → Bool) (raw bare : List Char) : Prop :=
  ∃ before after, raw = before ++ bare ++ after ∧ (∀ c ∈ before, p c = true) ∧
    (∀ c ∈ after, p c = true) ∧ BareOf p bare

section Trimming

variable {p : Char → Bool}

theorem eq_false_of_any {cs : List Char} (h : cs.any p = false) : ∀ c ∈ cs, p c = false := by
  simpa using h

theorem bareOf_of_forall {cs : List Char} (h : ∀ c ∈ cs, p c = false) : BareOf p cs where
  first c hc := h c (List.mem_of_head? hc)
  last c hc := h c (List.mem_of_getLast? hc)

theorem BareOf.append {u v : List Char} (hu : BareOf p u) (hv : BareOf p v) :
    BareOf p (u ++ v) where
  first := by
    intro c hc
    rw [List.head?_append, Option.or_eq_some_iff] at hc
    exact hc.elim (hu.first c) fun h => hv.first c h.2
  last := by
    intro c hc
    rw [List.getLast?_append, Option.or_eq_some_iff] at hc
    exact hc.elim (hv.last c) fun h => hu.last c h.2

theorem trimEndOf_append {bare after : List Char} (hafter : ∀ c ∈ after, p c = true)
    (hlast : ∀ c, bare.getLast? = some c → p c = false) : trimEndOf p (bare ++ after) = bare := by
  have hreverse : ∀ c ∈ after.reverse, p c = true := fun c hc => hafter c (List.mem_reverse.1 hc)
  have hhead : ∀ c, bare.reverse.head? = some c → p c = false := by
    intro c hc
    exact hlast c (List.head?_reverse ▸ hc)
  rw [trimEndOf, List.reverse_append, List.dropWhile_append_of_pos hreverse,
    dropWhile_of_head? hhead, List.reverse_reverse]

theorem exists_trimEndOf (p : Char → Bool) (cs : List Char) :
    ∃ after, cs = trimEndOf p cs ++ after ∧ (∀ c ∈ after, p c = true) ∧
      ∀ c, (trimEndOf p cs).getLast? = some c → p c = false := by
  refine ⟨(cs.reverse.takeWhile p).reverse, ?_, ?_, ?_⟩
  · rw [trimEndOf, ← List.reverse_append, List.takeWhile_append_dropWhile, List.reverse_reverse]
  · intro c hc
    exact List.mem_takeWhile_imp (List.mem_reverse.1 hc)
  · intro c hc
    rw [trimEndOf, List.getLast?_reverse] at hc
    exact head?_dropWhile hc

/-- Trimming is stripping. -/
theorem trimOf_eq_iff {raw bare : List Char} : trimOf p raw = bare ↔ StrippedOf p raw bare := by
  constructor
  · rintro rfl
    obtain ⟨after, hcs, hafter, hlast⟩ := exists_trimEndOf p (raw.dropWhile p)
    refine ⟨raw.takeWhile p, after, ?_, fun c hc => List.mem_takeWhile_imp hc, hafter, ?_, hlast⟩
    · rw [trimOf, List.append_assoc, ← hcs, List.takeWhile_append_dropWhile]
    · intro c hc
      have hhead : (raw.dropWhile p).head? = some c := by
        rw [hcs, List.head?_append, ← trimOf, hc]
        rfl
      exact head?_dropWhile hhead
  · rintro ⟨before, after, rfl, hbefore, hafter, hbare⟩
    rw [trimOf, List.append_assoc, List.dropWhile_append_of_pos hbefore]
    cases bare with
    | nil =>
      have hdrop : after.dropWhile p = [] := List.dropWhile_eq_nil_iff.2 hafter
      rw [List.nil_append, hdrop]
      rfl
    | cons c cs =>
      have hc : ¬ p c = true := by simp [hbare.first c rfl]
      rw [List.cons_append, List.dropWhile_cons_of_neg hc, ← List.cons_append,
        trimEndOf_append hafter hbare.last]

theorem trimOf_of_bare {cs : List Char} (h : BareOf p cs) : trimOf p cs = cs :=
  trimOf_eq_iff.2 ⟨[], [], by simp, by simp, by simp, h⟩

theorem strippedOf_trimOf (p : Char → Bool) (raw : List Char) : StrippedOf p raw (trimOf p raw) :=
  trimOf_eq_iff.1 rfl

/-- Characters that are trimmed off anyway do not change what trimming leaves. -/
theorem trimOf_surrounded {before after : List Char} (hbefore : ∀ c ∈ before, p c = true)
    (hafter : ∀ c ∈ after, p c = true) (raw : List Char) :
    trimOf p (before ++ raw ++ after) = trimOf p raw := by
  obtain ⟨left, right, hraw, hleft, hright, hbare⟩ := strippedOf_trimOf p raw
  refine trimOf_eq_iff.2 ⟨before ++ left, right ++ after, ?_, ?_, ?_, hbare⟩
  · calc before ++ raw ++ after
        = before ++ (left ++ trimOf p raw ++ right) ++ after := by rw [← hraw]
      _ = before ++ left ++ trimOf p raw ++ (right ++ after) := by simp only [List.append_assoc]
  · intro c hc
    exact (List.mem_append.1 hc).elim (hbefore c) (hleft c)
  · intro c hc
    exact (List.mem_append.1 hc).elim (hright c) (hafter c)

end Trimming

end SpamVerdict.Text
