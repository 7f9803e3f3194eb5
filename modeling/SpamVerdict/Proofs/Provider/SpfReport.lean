import SpamVerdict.Provider.SenderPolicy
import SpamVerdict.Proofs.Decision.SpfSignal
import SpamVerdict.Proofs.Spf.Rules
set_option autoImplicit false

/-!
# From an evaluation to the decision (SPEC_FULL §4.5, §14.4)

The outcome of an evaluation is handed on as a text among the details of a report, and read back
when the signals are taken.  Nothing is lost on the way: what the report conveys
(`Report.Conveys`) is what the policy decides on, and errors are reported exactly where the
outcome is invalid (`senderPolicy_handoff`).

SPEC_FULL §14.4 has the outcome stand in the details under the name `result`, also where there is no
domain or no address to evaluate; §4.5 has the policy act on it.
-/

namespace SpamVerdict

/-! ## Errors of an evaluation -/

namespace Spf

theorem Result.outcome_eq_invalid_iff {r : Result} :
    r.outcome = .invalid ↔ r = .tempError ∨ r = .permError := by
  cases r <;> decide

theorem Fault.outcome_result (fault : Fault) : fault.result.outcome = .invalid := by
  cases fault <;> rfl

/-- A fault stands behind every invalid outcome, and behind no other. -/
theorem Verdict.Coherent.fault_isSome_iff {v : Verdict} (hv : v.Coherent) :
    v.fault.isSome = true ↔ v.raw.outcome = .invalid := by
  unfold Coherent at hv
  cases hfault : v.fault with
  | none =>
    rw [hfault] at hv
    simpa using hv
  | some fault =>
    rw [hfault] at hv
    simp [hv, fault.outcome_result]

theorem evaluate_coherent (dns : Dns.Resolver) (domain : String) (ip : Ip.Address) :
    (evaluate dns domain ip).verdict.Coherent :=
  checkDomain_coherent dns ip maxDepth (normalizeDomain domain)

theorem Evaluation.error_isSome_iff {e : Evaluation} (he : e.verdict.Coherent) :
    e.error.isSome = true ↔ e.outcome = .invalid := by
  rw [error, Option.isSome_map]
  exact he.fault_isSome_iff

end Spf

namespace Provider

/-! ## Reports -/

/-- A report under the name of SPF conveys an outcome: there is no score, the outcome can be read
from the details, and there is an error exactly if the outcome is invalid. -/
structure Report.Conveys (r : Report) (o : Spf.Outcome) : Prop where
  provider : r.provider = spfName
  score : r.score = none
  outcome : r.spfOutcome? = some o
  isOk_iff : r.isOk = false ↔ o = .invalid

namespace SenderPolicy

theorem invalid_conveys (error domain ip : String) :
    (invalid error domain ip).Conveys .invalid where
  provider := rfl
  score := rfl
  outcome := Report.spfOutcome?_of_get? (by
    simp [invalid, Report.withData, Json.Members.get?_insert])
  isOk_iff := ⟨fun _ => rfl, fun _ => rfl⟩

theorem reportOn_conveys (domain ip : String) {e : Spf.Evaluation} (he : e.verdict.Coherent) :
    (reportOn domain ip e).Conveys e.outcome where
  provider := rfl
  score := rfl
  outcome := Report.spfOutcome?_of_get? (by
    simp [reportOn, Json.Members.ofList, Json.Members.get?_insert])
  isOk_iff := by
    rw [← Spf.Evaluation.error_isSome_iff he, Report.isOk, reportOn]
    cases e.error <;> simp

/-- The outcome for a message: that of the evaluation if the sender has a domain and there is an
address to evaluate it for, and an invalid one otherwise. -/
def outcomeFor (dns : Dns.Resolver) (m : Mail.Message) : Spf.Outcome :=
  match m.senderDomain?, Ip.Address.parse? (Text.trim m.ip) with
  | some domain, some ip => (Spf.evaluate dns domain ip).outcome
  | _, _ => .invalid

theorem check_conveys (dns : Dns.Resolver) (m : Mail.Message) :
    (check dns m).Conveys (outcomeFor dns m) := by
  unfold check outcomeFor
  dsimp only
  cases m.senderDomain? with
  | none => exact invalid_conveys _ _ _
  | some domain =>
    cases Ip.Address.parse? (Text.trim m.ip) with
    | none => exact invalid_conveys _ _ _
    | some ip => exact reportOn_conveys domain _ (Spf.evaluate_coherent dns domain ip)

/-- An evaluation has an error exactly if its outcome is invalid, which are the two kinds of error
among the results.  The report on a message conveys the outcome of the evaluation, or an invalid
one if there is nothing to evaluate; and whatever other providers report, that outcome is the SPF
signal, and SPF is among the triggered sources exactly if the policy condemns it. -/
theorem senderPolicy_handoff (dns : Dns.Resolver) :
    (∀ domain ip,
      let e := Spf.evaluate dns domain ip
      (e.error.isSome = true ↔ e.outcome = .invalid) ∧
        (e.outcome = .invalid ↔ e.verdict.raw = .tempError ∨ e.verdict.raw = .permError)) ∧
      ∀ m : Mail.Message,
        let r := check dns m
        let o := outcomeFor dns m
        r.Conveys o ∧
          ∀ reports : List Report, (Signals.ofReports (reports ++ [r])).spf = some o ∧
            ∀ p : Policy, spfName ∈ (p.decide (reports ++ [r])).triggered ↔ p.Condemns o := by
  refine ⟨fun domain ip => ⟨?_, Spf.Result.outcome_eq_invalid_iff⟩, fun m => ?_⟩
  · exact Spf.Evaluation.error_isSome_iff (Spf.evaluate_coherent dns domain ip)
  · have hconveys := check_conveys dns m
    refine ⟨hconveys, fun reports => ⟨?_, fun p => ?_⟩⟩
    · exact (Signals.spf_ofReports_snoc hconveys.provider reports).trans hconveys.outcome
    · exact Policy.spfName_mem_triggered_snoc_iff hconveys.provider hconveys.outcome reports

end SenderPolicy

end Provider

end SpamVerdict
