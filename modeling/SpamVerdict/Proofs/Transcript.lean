import Mathlib.Data.List.Induction
import Mathlib.Data.List.Forall2
import SpamVerdict.Audit.Row
set_option autoImplicit false

/-!
# Transcripts of runs

A machine is asked one thing after the other, each at its time, and answers every time.  The
transcript of a run holds all of it in order, so that what a machine says at some point can be told
from what was asked and answered before, without a look at its state.

Two inductions over runs are made here once: what every step keeps holds of a run and its
transcript (`transcript_induction`), and machines that are kept in a relation by every step answer
in related ways (`transcript_related`).

The machines are the audit store (SPEC_FULL §6), the checker (§14.6) and the service (§15).
-/

namespace SpamVerdict

/-- What was asked at some time, and the answer to it. -/
structure Entry (ι α : Type) where
  time : Instant
  asked : ι
  answer : α

section Runs

variable {σ ι α : Type} (step : σ → Instant → ι → α × σ)

/-- The state behind a run. -/
def stateAfter (s : σ) : List (Instant × ι) → σ
  | [] => s
  | (now, x) :: rest => stateAfter (step s now x).2 rest

/-- Everything that was asked and answered in a run. -/
def transcript (s : σ) : List (Instant × ι) → List (Entry ι α)
  | [] => []
  | (now, x) :: rest => ⟨now, x, (step s now x).1⟩ :: transcript (step s now x).2 rest

/-- A transcript holds what was asked, each at its time. -/
theorem transcript_map (s : σ) (xs : List (Instant × ι)) :
    (transcript step s xs).map (fun e => (e.time, e.asked)) = xs := by
  induction xs generalizing s with
  | nil => rfl
  | cons x xs ih => rw [transcript, List.map_cons, ih]

variable {step}

/-- What holds at the start and is kept by every step holds of a run and its transcript. -/
theorem transcript_induction {P : List (Entry ι α) → σ → Prop} {s : σ} (hstart : P [] s)
    (hstep : ∀ h s now x, P h s → P (h ++ [⟨now, x, (step s now x).1⟩]) (step s now x).2)
    (xs : List (Instant × ι)) : P (transcript step s xs) (stateAfter step s xs) := by
  -- The induction needs the entries before the run as a start of any transcript.
  suffices hany : ∀ h s, P h s → P (h ++ transcript step s xs) (stateAfter step s xs) from
    hany [] s hstart
  induction xs with
  | nil =>
    intro h s hs
    rw [transcript, List.append_nil]
    exact hs
  | cons x xs ih =>
    intro h s hs
    rw [transcript, ← List.singleton_append, ← List.append_assoc]
    exact ih _ _ (hstep h s x.1 x.2 hs)

/-- Two runs whose steps keep the states related and give related answers. -/
theorem transcript_related {R : σ → σ → Prop} {S : ι → ι → Prop}
    {T : Entry ι α → Entry ι α → Prop}
    (hstep : ∀ s t now x y, R s t → S x y →
      T ⟨now, x, (step s now x).1⟩ ⟨now, y, (step t now y).1⟩ ∧
        R (step s now x).2 (step t now y).2)
    {xs ys : List (Instant × ι)} (hxs : List.Forall₂ (fun x y => x.1 = y.1 ∧ S x.2 y.2) xs ys)
    {s t : σ} (hst : R s t) :
    List.Forall₂ T (transcript step s xs) (transcript step t ys) ∧
      R (stateAfter step s xs) (stateAfter step t ys) := by
  induction hxs generalizing s t with
  | nil => exact ⟨.nil, hst⟩
  | @cons x y xs ys hxy _ ih =>
    obtain ⟨now, x⟩ := x
    obtain ⟨_, y⟩ := y
    obtain ⟨rfl, hxy⟩ := hxy
    obtain ⟨hentry, hnext⟩ := hstep s t now x y hst hxy
    obtain ⟨hrest, hlast⟩ := ih hnext
    exact ⟨.cons hentry hrest, hlast⟩

/-- Entries that leave the state alone can be taken out of a run: neither the other answers nor
the state behind the run change. -/
theorem transcript_filter {keep : Entry ι α → Bool}
    (hidle : ∀ s now x, keep ⟨now, x, (step s now x).1⟩ = false → (step s now x).2 = s)
    (s : σ) (xs : List (Instant × ι)) :
    let kept := (transcript step s xs).filter keep
    transcript step s (kept.map fun e => (e.time, e.asked)) = kept ∧
      stateAfter step s (kept.map fun e => (e.time, e.asked)) = stateAfter step s xs := by
  induction xs generalizing s with
  | nil => exact ⟨rfl, rfl⟩
  | cons x xs ih =>
    obtain ⟨now, x⟩ := x
    obtain ⟨hentries, hstate⟩ := ih (step s now x).2
    rw [transcript]
    cases hkeep : keep ⟨now, x, (step s now x).1⟩ with
    | true =>
      simp only [List.filter_cons_of_pos hkeep, List.map_cons, transcript, stateAfter]
      exact ⟨congrArg _ hentries, hstate⟩
    | false =>
      have hsame := hidle s now x hkeep
      rw [hsame] at hentries hstate
      rw [List.filter_cons_of_neg (by simp [hkeep]), stateAfter, hsame]
      exact ⟨hentries, hstate⟩

end Runs

/-! ## Speaking about transcripts -/

section Histories

variable {ε : Type} {P Q : ε → Prop} {R : List ε → ε → Prop} {h : List ε} {x e : ε}

/-- Every entry is related to the entries before it. -/
def Throughout (R : List ε → ε → Prop) (h : List ε) : Prop :=
  ∀ before e after, h = before ++ e :: after → R before e

/-- An entry satisfies `P`, and no later one satisfies `Q`. -/
def Latest (P Q : ε → Prop) (h : List ε) (e : ε) : Prop :=
  ∃ before after, h = before ++ e :: after ∧ P e ∧ ∀ later ∈ after, ¬ Q later

/-- An entry of a longer history is the last one, or it stands in what comes before that. -/
theorem snoc_eq_append_cons_iff {before after : List ε} :
    h ++ [x] = before ++ e :: after ↔
      (before = h ∧ e = x ∧ after = []) ∨
        ∃ rest, after = rest ++ [x] ∧ h = before ++ e :: rest := by
  constructor
  · intro heq
    rcases List.eq_nil_or_concat after with rfl | ⟨rest, y, rfl⟩
    · obtain ⟨rfl, hx⟩ := List.append_inj' heq rfl
      obtain rfl := List.singleton_inj.1 hx
      exact .inl ⟨rfl, rfl, rfl⟩
    · rw [List.concat_eq_append, ← List.cons_append, ← List.append_assoc] at heq
      obtain ⟨rfl, hx⟩ := List.append_inj' heq rfl
      obtain rfl := List.singleton_inj.1 hx
      exact .inr ⟨rest, List.concat_eq_append, rfl⟩
  · rintro (⟨rfl, rfl, rfl⟩ | ⟨rest, rfl, rfl⟩)
    · rfl
    · rw [List.append_assoc, List.cons_append]

theorem throughout_nil : Throughout R ([] : List ε) := by
  intro before e after heq
  simp at heq

theorem throughout_snoc_iff : Throughout R (h ++ [x]) ↔ Throughout R h ∧ R h x := by
  constructor
  · intro hall
    refine ⟨fun before e after heq => ?_, ?_⟩
    · exact hall before e (after ++ [x]) (snoc_eq_append_cons_iff.2 (.inr ⟨after, rfl, heq⟩))
    · exact hall h x [] rfl
  · rintro ⟨hall, hx⟩ before e after heq
    rcases snoc_eq_append_cons_iff.1 heq with ⟨rfl, rfl, rfl⟩ | ⟨rest, rfl, hrest⟩
    · exact hx
    · exact hall before e rest hrest

theorem not_latest_nil : ¬ Latest P Q [] e := by
  rintro ⟨before, after, heq, -⟩
  simp at heq

theorem latest_snoc_iff :
    Latest P Q (h ++ [x]) e ↔ (P x ∧ e = x) ∨ (¬ Q x ∧ Latest P Q h e) := by
  constructor
  · rintro ⟨before, after, heq, he, hafter⟩
    rcases snoc_eq_append_cons_iff.1 heq with ⟨rfl, rfl, rfl⟩ | ⟨rest, rfl, hh⟩
    · exact .inl ⟨he, rfl⟩
    · obtain ⟨hrest, hx⟩ := List.forall_mem_append.1 hafter
      exact .inr ⟨hx x (List.mem_singleton_self x), before, rest, hh, he, hrest⟩
  · rintro (⟨hx, rfl⟩ | ⟨hx, before, after, heq, he, hafter⟩)
    · exact ⟨h, [], rfl, hx, List.forall_mem_nil _⟩
    · refine ⟨before, after ++ [x], ?_, he, ?_⟩
      · exact snoc_eq_append_cons_iff.2 (.inr ⟨after, rfl, heq⟩)
      · exact List.forall_mem_append.2 ⟨hafter, List.forall_mem_singleton.2 hx⟩

theorem Latest.unique {e' : ε} (hPQ : ∀ x, P x → Q x) (he : Latest P Q h e)
    (he' : Latest P Q h e') : e = e' := by
  induction h using List.reverseRecOn with
  | nil => exact absurd he not_latest_nil
  | append_singleton h x ih =>
    rcases latest_snoc_iff.1 he with ⟨hx, rfl⟩ | ⟨hx, he⟩ <;>
      rcases latest_snoc_iff.1 he' with ⟨hx', rfl⟩ | ⟨hx', he'⟩
    · rfl
    · exact absurd (hPQ _ hx) hx'
    · exact absurd (hPQ _ hx') hx
    · exact ih he he'

end Histories

end SpamVerdict
