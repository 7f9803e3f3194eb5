import Mathlib
import SpamVerdict.Ip.Public
import SpamVerdict.Proofs.Ip.Membership
import SpamVerdict.Proofs.Spf.Rules
set_option autoImplicit false

/-!
# Two spellings of one sender (SPEC_FULL §4.3, §4.4)

An IPv4 sender can also be given as the IPv4-mapped IPv6 address that holds it.  The evaluation
takes the two for addresses of different families: no block holds both (`not_inBlock_both`), and
hosts are asked for addresses of one family only.  So a mechanism may match one of the two and not
the other; `TellsApart` says which mechanisms do, and `directTest_ne_iff` that it forgets none.

Where no published policy has such a mechanism the two senders have the same verdict
(`mappedSender_agrees`).  Where one has, they need not (`mappedSender_fails`).

SPEC_FULL §4.4 speaks of literals of different families.  Whether an address is public (§4.1) is
decided for a mapped address by the IPv4 address in it, so such senders do reach an evaluation.
-/

namespace SpamVerdict.Spf

/-! ## Mechanisms -/

/-- No block holds both spellings of an IPv4 address. -/
theorem not_inBlock_both (x : Ip.V4) (block : String)
    (h : (Ip.Address.v4 x).inBlock block = true) :
    (Ip.Address.v6 (.ofV4 x)).inBlock block = false := by
  apply Bool.eq_false_iff.2
  intro hmapped
  unfold Ip.Address.inBlock at h hmapped
  cases hblock : Ip.Block.ofChars? (Text.trimOf Text.isBlank block.toList) with
  | none => simp [hblock] at h
  | some b =>
    simp only [hblock, Ip.Block.contains_iff] at h hmapped
    exact nomatch h.1.symm.trans hmapped.1

/-- A mechanism matches one spelling of an IPv4 sender and not the other. -/
inductive TellsApart (dns : Dns.Resolver) (x : Ip.V4) (domain : String) : Mechanism → Prop where
  | ip4 {block : String} (h : (Ip.Address.v4 x).inBlock block = true ∨
      (Ip.Address.v6 (.ofV4 x)).inBlock block = true) : TellsApart dns x domain (.ip4 block)
  | ip6 {block : String} (h : (Ip.Address.v4 x).inBlock block = true ∨
      (Ip.Address.v6 (.ofV4 x)).inBlock block = true) : TellsApart dns x domain (.ip6 block)
  | a {target : Option String} (h : ¬ (HasAddress dns (.v4 x) (target.getD domain) ↔
      HasAddress dns (.v6 (.ofV4 x)) (target.getD domain))) : TellsApart dns x domain (.a target)
  | mx {target : Option String} (h : ¬ (HasExchanger dns (.v4 x) (target.getD domain) ↔
      HasExchanger dns (.v6 (.ofV4 x)) (target.getD domain))) : TellsApart dns x domain (.mx target)

section Mechanisms

variable {dns : Dns.Resolver} {x : Ip.V4} {domain : String}

theorem inBlock_ne_iff (block : String) :
    (Ip.Address.v4 x).inBlock block ≠ (Ip.Address.v6 (.ofV4 x)).inBlock block ↔
      (Ip.Address.v4 x).inBlock block = true ∨
        (Ip.Address.v6 (.ofV4 x)).inBlock block = true := by
  have hboth := not_inBlock_both x block
  cases h : (Ip.Address.v4 x).inBlock block with
  | true => simp [hboth h]
  | false => simp

/-- The two spellings differ in the test of a mechanism exactly if it tells them apart. -/
theorem directTest_ne_iff (m : Mechanism) :
    (directTest dns (.v4 x) domain m).1 ≠ (directTest dns (.v6 (.ofV4 x)) domain m).1 ↔
      TellsApart dns x domain m := by
  cases m with
  | all =>
    refine ⟨fun h => absurd rfl h, fun h => ?_⟩
    cases h
  | includes target =>
    refine ⟨fun h => absurd rfl h, fun h => ?_⟩
    cases h
  | ip4 block =>
    refine (inBlock_ne_iff block).trans ⟨.ip4, fun h => ?_⟩
    cases h with
    | ip4 h => exact h
  | ip6 block =>
    refine (inBlock_ne_iff block).trans ⟨.ip6, fun h => ?_⟩
    cases h with
    | ip6 h => exact h
  | a target =>
    rw [Ne, Bool.eq_iff_iff, directTest, directTest, addressMatches_iff, addressMatches_iff]
    refine ⟨.a, fun h => ?_⟩
    cases h with
    | a h => exact h
  | mx target =>
    rw [Ne, Bool.eq_iff_iff, directTest, directTest, mxMatches_iff, mxMatches_iff]
    refine ⟨.mx, fun h => ?_⟩
    cases h with
    | mx h => exact h

end Mechanisms

/-! ## Evaluations -/

/-- No policy that a domain publishes has a mechanism that tells the two spellings apart. -/
def SpelledAlike (dns : Dns.Resolver) (x : Ip.V4) : Prop :=
  ∀ domain text, Publishes dns domain text →
    ∀ q m, .directive q m ∈ termsOf (Text.trim text) → ¬ TellsApart dns x domain m

/-- The verdict of a redirect is all that the sender can change where no term decides. -/
theorem fallThrough_verdict_congr {visit visit' : String → Step}
    (hvisit : ∀ target, (visit target).1 = (visit' target).1) (domain record : String)
    (redirect : Option String) :
    (fallThrough visit domain record redirect).1 =
      (fallThrough visit' domain record redirect).1 := by
  cases redirect with
  | none => rfl
  | some target =>
    by_cases htarget : target = ""
    · subst htarget
      rfl
    · rw [fallThrough_of_redirect _ _ _ htarget, fallThrough_of_redirect _ _ _ htarget,
        hvisit target]

/-- At every level the two spellings end in the same verdict. -/
theorem checkDomain_mapped {dns : Dns.Resolver} {x : Ip.V4} (h : SpelledAlike dns x)
    (levels : Nat) (domain : String) :
    (checkDomain dns (.v6 (.ofV4 x)) levels domain).1 =
      (checkDomain dns (.v4 x) levels domain).1 := by
  induction levels generalizing domain with
  | zero => rfl
  | succ levels ih =>
    by_cases hpublishes : ∃ text, Publishes dns domain text
    · obtain ⟨text, htext⟩ := hpublishes
      have hattempt : ∀ token ∈ tokensOf (Text.trim text).toList,
          (attempt dns (.v6 (.ofV4 x)) (checkDomain dns (.v6 (.ofV4 x)) levels) domain
            (Text.trim text) token).1 =
          (attempt dns (.v4 x) (checkDomain dns (.v4 x) levels) domain
            (Text.trim text) token).1 := by
        intro token htoken
        apply attempt_verdict_congr
        · intro q m hterm
          have hmem : .directive q m ∈ termsOf (Text.trim text) :=
            List.mem_map.2 ⟨token, htoken, hterm⟩
          by_contra hne
          exact h domain text htext q m hmem ((directTest_ne_iff m).1 (Ne.symm hne))
        · exact fun target => congrArg Verdict.hitLimit (ih target)
        · exact fun target => by rw [ih target]
      simp only [checkDomain_of_publishes htext]
      exact scan_verdict_congr (P := Eq) (fun _ => rfl)
        (fallThrough_verdict_congr ih domain (Text.trim text)) hattempt none
    · rw [checkDomain_eq_of_not_publishes (not_exists.1 hpublishes)]

/-- An IPv4 sender and the IPv4-mapped address that holds it have the same verdict, so the same
outcome and error, wherever no published policy has a mechanism that tells them apart: a block that
holds one of the two, for none holds both, or hosts that list one of the two and not the other. -/
theorem mappedSender_agrees {dns : Dns.Resolver} {x : Ip.V4} (h : SpelledAlike dns x)
    (domain : String) :
    (evaluate dns domain (.v6 (.ofV4 x))).verdict = (evaluate dns domain (.v4 x)).verdict ∧
      (evaluate dns domain (.v6 (.ofV4 x))).outcome = (evaluate dns domain (.v4 x)).outcome ∧
      (evaluate dns domain (.v6 (.ofV4 x))).error = (evaluate dns domain (.v4 x)).error ∧
      ∀ name m, TellsApart dns x name m ↔
        (directTest dns (.v4 x) name m).1 ≠ (directTest dns (.v6 (.ofV4 x)) name m).1 := by
  have hverdict : (evaluate dns domain (.v6 (.ofV4 x))).verdict =
      (evaluate dns domain (.v4 x)).verdict :=
    checkDomain_mapped h maxDepth (normalizeDomain domain)
  refine ⟨hverdict, ?_, ?_, fun name m => (directTest_ne_iff m).symm⟩
  · exact congrArg (fun v => v.raw.outcome) hverdict
  · exact congrArg (fun v => v.fault.map Fault.message) hverdict

/-- Answers that list a sender under both spellings, next to a block that holds neither. -/
def dualZone : Dns.Resolver where
  txt _ := .ok ["v=spf1 ip4:198.51.100.0/24 a -all"]
  address
    | .v4, _ => .ok [.v4 ⟨192, 0, 2, 1⟩]
    | .v6, _ => .ok [.v6 (.ofV4 ⟨192, 0, 2, 1⟩)]
  mx _ := .ok []

theorem spelledAlike_dualZone : SpelledAlike dualZone ⟨192, 0, 2, 1⟩ := by
  intro domain text ⟨_, before, after, htxt, _⟩ q m hm htells
  have hmem : text ∈ before ++ text :: after := List.mem_append_right _ List.mem_cons_self
  rw [← Except.ok.inj htxt] at hmem
  obtain rfl := List.mem_singleton.1 hmem
  have hterms : termsOf (Text.trim "v=spf1 ip4:198.51.100.0/24 a -all") =
      [.directive .pass (.ip4 "198.51.100.0/24"), .directive .pass (.a none),
        .directive .fail .all] := by decide +kernel
  simp only [hterms, List.mem_cons, Term.directive.injEq, List.not_mem_nil, or_false] at hm
  obtain ⟨-, rfl⟩ | ⟨-, rfl⟩ | ⟨-, rfl⟩ := hm
  · cases htells with
    | ip4 h => exact absurd h (by decide +kernel)
  · cases htells with
    | a h => exact h (by simp [HasAddress, dualZone, Ip.Address.family])
  · cases htells

/-- A host with both an `A` and an `AAAA` record for the sender is found under either spelling. -/
theorem mappedSender_agrees_dualZone :
    SpelledAlike dualZone ⟨192, 0, 2, 1⟩ ∧
      (evaluate dualZone "start.test" (.v4 ⟨192, 0, 2, 1⟩)).verdict.raw = .pass ∧
      (evaluate dualZone "start.test" (.v6 (.ofV4 ⟨192, 0, 2, 1⟩))).verdict =
        (evaluate dualZone "start.test" (.v4 ⟨192, 0, 2, 1⟩)).verdict :=
  ⟨spelledAlike_dualZone, by decide +kernel,
    (mappedSender_agrees spelledAlike_dualZone "start.test").1⟩

/-- Answers under which one domain authorises a block and another one an address of its own. -/
def familyZone : Dns.Resolver where
  txt
    | "block.test" => .ok ["v=spf1 ip4:192.0.2.0/24 -all"]
    | "host.test" => .ok ["v=spf1 a -all"]
    | _ => .ok []
  address
    | .v4, "host.test" => .ok [.v4 ⟨192, 0, 2, 1⟩]
    | _, _ => .ok []
  mx _ := .ok []

/-- A sender that is authorised by its IPv4 address fails under the IPv4-mapped address that holds
it, by a block and by a host, although the rules for public addresses take the two for one. -/
theorem mappedSender_fails :
    let x : Ip.V4 := ⟨192, 0, 2, 1⟩
    Ip.Address.parse? "::ffff:192.0.2.1" = some (.v6 (.ofV4 x)) ∧
      (Ip.V6.ofV4 x).isPublic = x.isPublic ∧
      (evaluate familyZone "block.test" (.v4 x)).verdict.raw = .pass ∧
      (evaluate familyZone "block.test" (.v6 (.ofV4 x))).verdict.raw = .fail ∧
      (evaluate familyZone "host.test" (.v4 x)).verdict.raw = .pass ∧
      (evaluate familyZone "host.test" (.v6 (.ofV4 x))).verdict.raw = .fail := by
  decide +kernel

end SpamVerdict.Spf
