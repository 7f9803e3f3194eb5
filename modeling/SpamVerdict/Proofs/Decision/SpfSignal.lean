import Mathlib.Data.List.Induction
import SpamVerdict.Decision
set_option autoImplicit false

/-!
# The SPF signal (SPEC_FULL §4.5, §14.4)

The last report under the name of SPF gives the signal, and the policy condemns an outcome if its
action for it is to block (`Policy.Condemns`).  SPF stands among the triggered sources exactly if
the outcome that was found is condemned (`spfName_mem_triggered_iff`); a policy that condemns no
outcome decides as if there were no signal (`triggers_of_isSpfEnabled_eq_false`).
-/

namespace SpamVerdict

open Provider (Report spfName)

/-- The outcome of a report is the one whose name stands among the details. -/
theorem Provider.Report.spfOutcome?_of_get? {r : Report} {o : Spf.Outcome}
    (hresult : r.data.get? "result" = some (.string o.name)) : r.spfOutcome? = some o := by
  rw [spfOutcome?, hresult, Option.bind_some, Json.string?, Option.bind_some, o.parse?_name]

namespace Signals

variable (s : Signals) {r : Report} {reports : List Report}

theorem ofReports_snoc (reports : List Report) (r : Report) :
    ofReports (reports ++ [r]) = (ofReports reports).add r := by
  rw [ofReports, ofReports, List.foldl_append, List.foldl_cons, List.foldl_nil]

theorem add_of_spf (hr : r.provider = spfName) : s.add r = { s with spf := r.spfOutcome? } := by
  rw [add, hr]
  rfl

theorem spf_add_of_ne (hr : r.provider ≠ spfName) : (s.add r).spf = s.spf := by
  unfold add
  rw [if_neg hr]
  split
  · rfl
  · split <;> rfl

/-- The last report under the name of SPF gives the signal. -/
theorem spf_ofReports_snoc (hr : r.provider = spfName) (reports : List Report) :
    (ofReports (reports ++ [r])).spf = r.spfOutcome? := by
  rw [ofReports_snoc, add_of_spf _ hr]

/-- Without a report under the name of SPF there is no SPF signal. -/
theorem spf_ofReports_of_ne (hreports : ∀ r ∈ reports, r.provider ≠ spfName) :
    (ofReports reports).spf = none := by
  induction reports using List.reverseRecOn with
  | nil => rfl
  | append_singleton reports r ih =>
    obtain ⟨hrest, hr⟩ := List.forall_mem_append.1 hreports
    rw [ofReports_snoc, spf_add_of_ne _ (hr r (List.mem_singleton_self r)), ih hrest]

end Signals

namespace Policy

/-- The policy acts on an outcome; it never does on a pass. -/
inductive Condemns (p : Policy) : Spf.Outcome → Prop where
  | fail (haction : p.spfFailAction = .spam) : Condemns p .fail
  | none (haction : p.spfNoneAction = .spam) : Condemns p .none
  | invalid (haction : p.spfInvalidAction = .spam) : Condemns p .invalid

variable {p : Policy}

theorem actionOn_eq_spam_iff {found : Option Spf.Outcome} :
    p.actionOn found = .spam ↔ ∃ o, found = some o ∧ p.Condemns o := by
  constructor
  · intro haction
    match found with
    | some .fail => exact ⟨_, rfl, .fail haction⟩
    | some .none => exact ⟨_, rfl, .none haction⟩
    | some .invalid => exact ⟨_, rfl, .invalid haction⟩
    | some .pass => cases haction
    | Option.none => cases haction
  · rintro ⟨o, rfl, haction | haction | haction⟩ <;> exact haction

theorem isSpfEnabled_iff : p.isSpfEnabled = true ↔ ∃ o, p.Condemns o := by
  constructor
  · intro henabled
    simp only [isSpfEnabled, Bool.or_eq_true, decide_eq_true_eq] at henabled
    obtain (hfail | hnone) | hinvalid := henabled
    · exact ⟨_, .fail hfail⟩
    · exact ⟨_, .none hnone⟩
    · exact ⟨_, .invalid hinvalid⟩
  · rintro ⟨o, haction | haction | haction⟩ <;> simp [isSpfEnabled, haction]

/-- SPF is among the triggered sources exactly if the outcome that was found is condemned. -/
theorem spfName_mem_triggered_iff {reports : List Report} :
    spfName ∈ (p.decide reports).triggered ↔
      ∃ o, (Signals.ofReports reports).spf = some o ∧ p.Condemns o := by
  rw [← actionOn_eq_spam_iff]
  have hcontent : spfName ≠ Provider.contentName := by decide
  have hreputation : spfName ≠ Provider.reputationName := by decide
  simp [decide, decideSignals, triggers, hcontent, hreputation]

/-- The last report under the name of SPF decides alone whether SPF is among the triggered
sources. -/
theorem spfName_mem_triggered_snoc_iff {r : Report} {o : Spf.Outcome}
    (hr : r.provider = spfName) (ho : r.spfOutcome? = some o) (reports : List Report) :
    spfName ∈ (p.decide (reports ++ [r])).triggered ↔ p.Condemns o := by
  rw [spfName_mem_triggered_iff, Signals.spf_ofReports_snoc hr, ho]
  simp only [Option.some.injEq, exists_eq_left']

theorem triggers_of_isSpfEnabled_eq_false (hdisabled : p.isSpfEnabled = false) (s : Signals)
    (found : Option Spf.Outcome) : p.triggers { s with spf := found } = p.triggers s := by
  have hignores (found : Option Spf.Outcome) : p.actionOn found ≠ .spam := fun haction => by
    obtain ⟨o, -, ho⟩ := actionOn_eq_spam_iff.1 haction
    exact absurd (isSpfEnabled_iff.2 ⟨o, ho⟩) (by simp [hdisabled])
  simp only [triggers, if_neg (hignores _)]

end Policy

end SpamVerdict
