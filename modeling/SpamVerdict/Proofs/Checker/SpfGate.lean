import SpamVerdict.Proofs.Checker.TestMode
import SpamVerdict.Proofs.Decision.SpfSignal
set_option autoImplicit false

/-!
# Asking for SPF only when it matters (SPEC_FULL §14.4)

The SPF provider is asked only while the policy condemns some outcome.  Leaving it out otherwise
goes unnoticed: nothing that is done about a message depends on it (`SameEffect`), and only the list
of those who reported is shorter.  While the policy condemns an outcome, a provider that finds it
makes a difference, so the gate is as wide as it has to be (`spfGate_invisible`).

SPEC_FULL §14.4 gives the reason in brackets: "otherwise the result could never affect a decision".
This module is the proof of the brackets.
-/

namespace SpamVerdict

open Provider (spfName)

/-- Two decisions block alike, for the same sources and on the same scores. -/
structure Decision.SameEffect (d d' : Decision) : Prop where
  wouldBlock : d.wouldBlock = d'.wouldBlock
  shouldBlock : d.shouldBlock = d'.shouldBlock
  triggered : d.triggered = d'.triggered
  contentScore : d.contentScore = d'.contentScore
  reputation : d.reputation = d'.reputation

theorem Decision.SameEffect.refl (d : Decision) : d.SameEffect d := ⟨rfl, rfl, rfl, rfl, rfl⟩

/-- Signals that trigger the same under a policy and agree in the scores have the same effect,
whoever reported them. -/
theorem Policy.decideSignals_sameEffect (p : Policy) {s t : Signals}
    (queried queried' : List String)
    (htriggers : p.triggers s = p.triggers t) (hcontent : s.contentScore = t.contentScore)
    (hreputation : s.reputation = t.reputation) :
    (p.decideSignals s queried).SameEffect (p.decideSignals t queried') := by
  constructor
  · simp only [decideSignals, htriggers]
  · simp only [decideSignals, htriggers]
  · exact htriggers
  · exact hcontent
  · exact hreputation

/-- A report under the name of SPF has no effect where the policy condemns no outcome. -/
theorem Policy.decide_snoc_sameEffect {p : Policy} (hdisabled : p.isSpfEnabled = false)
    {r : Provider.Report} (hr : r.provider = spfName) (reports : List Provider.Report) :
    (p.decide reports).SameEffect (p.decide (reports ++ [r])) := by
  unfold decide
  rw [Signals.ofReports_snoc, Signals.add_of_spf _ hr]
  exact p.decideSignals_sameEffect _ _
    (triggers_of_isSpfEnabled_eq_false hdisabled _ r.spfOutcome?).symm rfl rfl

namespace Checker

/-- The checker that asks its SPF provider after the others under every policy. -/
def ungated (c : Checker) : Checker :=
  { c with providers := c.providers ++ c.spf.toList, spf := none }

/-- A provider reports an SPF outcome for a message. -/
structure Finds (provider : Provider) (peers : Http.Peers) (m : Mail.Message) (o : Spf.Outcome) :
    Prop where
  name : (provider peers m).provider = spfName
  outcome : (provider peers m).spfOutcome? = some o

section Gate

variable (c : Checker) (p : Policy)

theorem asked_ungated : c.ungated.asked p = c.providers ++ c.spf.toList := by
  simp [asked, ungated]

variable {p}

theorem asked_of_enabled (henabled : p.isSpfEnabled = true) :
    c.asked p = c.providers ++ c.spf.toList := by
  rw [asked, if_pos henabled]

theorem asked_of_disabled (hdisabled : p.isSpfEnabled = false) : c.asked p = c.providers := by
  simp [asked, hdisabled]

variable (peers : Http.Peers) (m : Mail.Message)

/-- What is done about a message does not depend on the gate. -/
theorem check_sameEffect (hspf : ∀ spf ∈ c.spf, (spf peers m).provider = spfName) :
    (c.check p peers m).decision.SameEffect (c.ungated.check p peers m).decision := by
  unfold check
  rw [asked_ungated]
  cases henabled : p.isSpfEnabled with
  | true =>
    rw [c.asked_of_enabled henabled]
    exact .refl _
  | false =>
    rw [c.asked_of_disabled henabled]
    cases hprovider : c.spf with
    | none =>
      rw [Option.toList_none, List.append_nil]
      exact .refl _
    | some spf =>
      rw [Option.toList_some, List.map_append, List.map_singleton]
      exact Policy.decide_snoc_sameEffect henabled (hspf spf hprovider) _

/-- A provider that finds an outcome which the policy condemns puts SPF among the triggered
sources, where nobody else does. -/
theorem triggered_ne_of_condemns {spf : Provider} {o : Spf.Outcome}
    (hothers : ∀ provider ∈ c.providers, (provider peers m).provider ≠ spfName)
    (ho : p.Condemns o) (hspf : Finds spf peers m o) :
    (({ c with spf := some spf }).check p peers m).decision.triggered ≠
      (({ c with spf := none }).check p peers m).decision.triggered := by
  have henabled : p.isSpfEnabled = true := Policy.isSpfEnabled_iff.2 ⟨o, ho⟩
  have hwith : spfName ∈ (({ c with spf := some spf }).check p peers m).decision.triggered := by
    unfold check
    rw [asked_of_enabled _ henabled, Option.toList_some, List.map_append, List.map_singleton]
    exact (Policy.spfName_mem_triggered_snoc_iff hspf.name hspf.outcome _).2 ho
  have hwithout : spfName ∉ (({ c with spf := none }).check p peers m).decision.triggered := by
    unfold check
    rw [asked_of_enabled _ henabled, Option.toList_none, List.append_nil]
    intro hmem
    obtain ⟨found, hfound, -⟩ := Policy.spfName_mem_triggered_iff.1 hmem
    rw [Signals.spf_ofReports_of_ne (List.forall_mem_map.2 hothers)] at hfound
    cases hfound
  intro heq
  exact hwithout (heq ▸ hwith)

/-- Every outcome can be found. -/
theorem exists_finds (o : Spf.Outcome) : ∃ provider, Finds provider peers m o :=
  ⟨.fixed ((Provider.Report.scored spfName none).withData "result" (.string o.name)), rfl,
    Provider.Report.spfOutcome?_of_get? rfl⟩

end Gate

/-- That the SPF provider is asked only under policies that act on some SPF outcome cannot be told
from what is done about a message: whether it is blocked, for which sources, and on which scores.
If no other provider reports SPF outcomes, the provider is asked exactly under those policies for
which it can make a difference: there is an outcome such that, where it is found, the triggered
sources are not the same without the provider. -/
theorem spfGate_invisible (c : Checker) (p : Policy) (peers : Http.Peers) (m : Mail.Message) :
    ((∀ spf ∈ c.spf, (spf peers m).provider = spfName) →
        (c.check p peers m).decision.SameEffect (c.ungated.check p peers m).decision) ∧
      ((∀ provider ∈ c.providers, (provider peers m).provider ≠ spfName) →
        (p.isSpfEnabled = true ↔
          ∃ o, (∃ spf, Finds spf peers m o) ∧ ∀ spf, Finds spf peers m o →
            (({ c with spf := some spf }).check p peers m).decision.triggered ≠
              (({ c with spf := none }).check p peers m).decision.triggered)) := by
  refine ⟨c.check_sameEffect peers m, fun hothers => ⟨fun henabled => ?_, ?_⟩⟩
  · obtain ⟨o, ho⟩ := Policy.isSpfEnabled_iff.1 henabled
    exact ⟨o, exists_finds peers m o, fun spf => c.triggered_ne_of_condemns peers m hothers ho⟩
  · rintro ⟨o, ⟨spf, hspf⟩, hdiffers⟩
    by_contra hdisabled
    have hdisabled : p.isSpfEnabled = false := Bool.eq_false_iff.2 hdisabled
    refine hdiffers spf hspf ?_
    unfold check
    rw [asked_of_disabled _ hdisabled, asked_of_disabled _ hdisabled]

/-- Under the default policy the provider of `sentry` is not asked, and would have no effect; as
soon as forbidden addresses are blocked, it has one. -/
theorem spfGate_invisible_sentry :
    let m := Mail.Message.ofVars drillVars
    let strict := { Policy.default with spfFailAction := .spam }
    (∀ spf ∈ sentry.spf, (spf .unreachable m).provider = spfName) ∧
      (∀ provider ∈ sentry.providers, (provider .unreachable m).provider ≠ spfName) ∧
      (sentry.check .default .unreachable m).reports.length = 0 ∧
      (sentry.ungated.check .default .unreachable m).reports.length = 1 ∧
      (sentry.check .default .unreachable m).decision.SameEffect
        (sentry.ungated.check .default .unreachable m).decision ∧
      (sentry.check strict .unreachable m).decision.triggered = [spfName] ∧
      ∃ o spf, Finds spf .unreachable m o ∧
        (({ sentry with spf := some spf }).check strict .unreachable m).decision.triggered ≠
          (({ sentry with spf := none }).check strict .unreachable m).decision.triggered := by
  intro m strict
  have hspf : ∀ spf ∈ sentry.spf, (spf .unreachable m).provider = spfName := by
    rintro spf ⟨⟩
    rfl
  have hothers : ∀ provider ∈ sentry.providers, (provider .unreachable m).provider ≠ spfName :=
    List.forall_mem_nil _
  obtain ⟨hsame, -⟩ := spfGate_invisible sentry .default .unreachable m
  obtain ⟨-, hwide⟩ := spfGate_invisible sentry strict .unreachable m
  obtain ⟨o, ⟨spf, hfinds⟩, hdiffers⟩ := (hwide hothers).1 rfl
  exact ⟨hspf, hothers, rfl, rfl, hsame hspf, rfl, o, spf, hfinds, hdiffers spf hfinds⟩

end Checker

end SpamVerdict
