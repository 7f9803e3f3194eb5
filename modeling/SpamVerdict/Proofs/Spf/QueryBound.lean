import Mathlib.Algebra.Ring.GeomSum
import Mathlib.Tactic.Ring
import SpamVerdict.Proofs.Spf.Rules
set_option autoImplicit false

/-!
# How many queries an evaluation makes (SPEC_FULL §3, §5)

A table of answers may let its records refer to each other in cycles.  If no record has more than
`B` tokens and no name more than `M` exchangers, each level still makes at most `B` visits to the
level below, so the queries are bounded by a geometric sum over the levels (`queries_bounded`).

The count is made for any class of queries at once: `k` bounds what a domain costs by itself and
`c` what a mechanism costs by itself (`checkDomain_count_le`).

SPEC_FULL §5 has the depth as "the only safeguard against unbounded work"; the bound says how much
work that leaves.
-/

namespace SpamVerdict.Dns

/-- A query for text records. -/
def Query.isTxt : Query → Bool
  | txt _ => true
  | address _ _ => false
  | mx _ => false

end SpamVerdict.Dns

namespace SpamVerdict.Spf

/-- The number of queries of a class in a log. -/
def Log.count (p : Dns.Query → Bool) (log : Log) : Nat :=
  log.queries.countP p

@[simp] theorem Log.count_nil (p : Dns.Query → Bool) : count p [] = 0 := rfl

@[simp] theorem Log.count_noted (p : Dns.Query → Bool) (line : String) (log : Log) :
    count p (.noted line :: log) = count p log := rfl

@[simp] theorem Log.count_asked (p : Dns.Query → Bool) (query : Dns.Query) (log : Log) :
    count p (.asked query :: log) = count p log + if p query then 1 else 0 := by
  simp [count, List.countP_cons]

@[simp] theorem Log.count_append (p : Dns.Query → Bool) (log rest : Log) :
    count p (log ++ rest) = count p log + count p rest := by
  simp [count]

/-! ## Mechanisms -/

section Mechanisms

variable (dns : Dns.Resolver) (ip : Ip.Address) (domain : String)

theorem length_addressMatches_queries (name : String) :
    (addressMatches dns ip domain name).2.queries.length ≤ 1 := by
  unfold addressMatches
  dsimp only
  split
  · simp
  · split <;> simp

theorem length_hostsMatch_queries (hosts : List String) :
    (hostsMatch dns ip domain hosts).2.queries.length ≤ hosts.length := by
  induction hosts with
  | nil => simp [hostsMatch]
  | cons host hosts ih =>
    have hhost := length_addressMatches_queries dns ip domain (Text.trimDots host)
    unfold hostsMatch
    dsimp only
    split
    · exact Nat.le_succ_of_le ih
    · split
      · rw [List.length_cons]
        dsimp only
        omega
      · rw [Log.queries_append, List.length_append, List.length_cons]
        omega

/-- A mechanism by itself asks for no text records. -/
theorem directTest_isTxt {m : Mechanism} {query : Dns.Query}
    (hquery : query ∈ (directTest dns ip domain m).2.queries) : query.isTxt = false := by
  obtain ⟨event, hevent, hasked⟩ := List.mem_filterMap.1 hquery
  have hlookup := directTest_ofLookup dns ip domain m event hevent
  cases hlookup with
  | noted line => cases hasked
  | address family name => cases hasked; rfl
  | mx name => cases hasked; rfl

theorem length_directTest_queries {M : Nat}
    (hM : ∀ name hosts, dns.mx name = .ok hosts → hosts.length ≤ M) (m : Mechanism) :
    (directTest dns ip domain m).2.queries.length ≤ 1 + M := by
  cases m with
  | a target =>
    have haddress := length_addressMatches_queries dns ip domain (target.getD domain)
    exact Nat.le_add_right_of_le haddress
  | mx target =>
    simp only [directTest, mxMatches]
    split
    · simp
    · split
      · simp
      · next hosts hmx =>
        have hhosts := length_hostsMatch_queries dns ip domain hosts
        have hlength := hM _ _ hmx
        rw [Log.queries_asked, Log.queries_noted, List.length_cons]
        omega
  | _ => simp [directTest]

end Mechanisms

/-! ## Records -/

section Records

variable {dns : Dns.Resolver} {ip : Ip.Address} {visit : String → Step} {domain record : String}
  {p : Dns.Query → Bool} {c t : Nat}

/-- A token costs what its mechanism costs by itself, or one visit. -/
theorem attempt_count_le (hdirect : ∀ m, (directTest dns ip domain m).2.count p ≤ c)
    (hvisit : ∀ target, (visit target).2.count p ≤ t) (token : List Char) :
    (attempt dns ip visit domain record token).2.count p ≤ c + t := by
  rw [Log.count, attempt_queries]
  cases Term.ofChars token with
  | redirect target => exact Nat.zero_le _
  | unsupported body => exact Nat.zero_le _
  | directive q m =>
    by_cases hinclude : ∃ target, m = .includes target
    · obtain ⟨target, rfl⟩ := hinclude
      have htarget : (visit target).2.count p ≤ t := hvisit target
      rw [queriesOf]
      split
      · exact Nat.zero_le _
      · exact Nat.le_add_left_of_le htarget
    · rw [queriesOf_direct (not_exists.1 hinclude)]
      exact Nat.le_add_right_of_le (hdirect m)

/-- Every token pays for one visit at most; a redirect pays in advance for the one at the end. -/
theorem scan_count_le (hdirect : ∀ m, (directTest dns ip domain m).2.count p ≤ c)
    (hvisit : ∀ target, (visit target).2.count p ≤ t) (redirect : Option String)
    (tokens : List (List Char)) :
    (scan dns ip visit domain record redirect tokens).2.count p ≤
      (tokens.length + redirect.isSome.toNat) * (c + t) := by
  induction tokens generalizing redirect with
  | nil =>
    unfold scan fallThrough
    cases redirect with
    | none => simp
    | some target =>
      have htarget := hvisit target
      dsimp only
      split
      · simp
      · simp; omega
  | cons token tokens ih =>
    have htoken : (attempt dns ip visit domain record token).2.count p ≤ c + t :=
      attempt_count_le hdirect hvisit token
    have hsum : (tokens.length + 1 + redirect.isSome.toNat) * (c + t) =
        (c + t) + (tokens.length + redirect.isSome.toNat) * (c + t) := by ring
    rw [scan, List.length_cons, hsum]
    cases hterm : Term.ofChars token with
    | redirect target =>
      have hrest : (scan dns ip visit domain record (some target) tokens).2.count p ≤
          (tokens.length + 1) * (c + t) := ih (some target)
      have hpaid : (tokens.length + 1) * (c + t) ≤
          (c + t) + (tokens.length + redirect.isSome.toNat) * (c + t) := by
        rw [add_mul, one_mul, add_mul]
        omega
      rw [attempt_of_redirect hterm]
      exact hrest.trans hpaid
    | _ =>
      have hrest := ih redirect
      cases hattempt : attempt dns ip visit domain record token with
      | mk verdict log =>
        rw [hattempt] at htoken
        dsimp only at htoken
        cases verdict with
        | some v => exact Nat.le_add_right_of_le htoken
        | none =>
          simp only [Term.redirect?, Option.none_or, Log.count_append]
          omega

end Records

/-! ## Domains -/

/-- With `levels` levels left, the visits below a domain make up a geometric sum. -/
theorem checkDomain_count_le {dns : Dns.Resolver} {ip : Ip.Address} {p : Dns.Query → Bool}
    {B c k : Nat} (hB : ∀ name text, Publishes dns name text →
      (tokensOf (Text.trim text).toList).length ≤ B)
    (hdirect : ∀ domain m, (directTest dns ip domain m).2.count p ≤ c)
    (hdomain : ∀ domain, (if p (.txt domain) then 1 else 0) ≤ k) (levels : Nat)
    (domain : String) :
    (checkDomain dns ip levels domain).2.count p ≤
      (k + B * c) * ∑ i ∈ Finset.range levels, B ^ i := by
  induction levels generalizing domain with
  | zero => simp [checkDomain, Log.count]
  | succ levels ih =>
    have hk := hdomain domain
    have hbound : (k + B * c) * ∑ i ∈ Finset.range (levels + 1), B ^ i =
        k + B * (c + (k + B * c) * ∑ i ∈ Finset.range levels, B ^ i) := by
      rw [geom_sum_succ]
      ring
    rw [hbound]
    by_cases hpublishes : ∃ text, Publishes dns domain text
    · obtain ⟨text, htext⟩ := hpublishes
      have hscan : (scan dns ip (checkDomain dns ip levels) domain (Text.trim text) none
          (tokensOf (Text.trim text).toList)).2.count p ≤
            ((tokensOf (Text.trim text).toList).length + 0) *
              (c + (k + B * c) * ∑ i ∈ Finset.range levels, B ^ i) :=
        scan_count_le (hdirect domain) ih none _
      rw [Nat.add_zero] at hscan
      have htokens := Nat.mul_le_mul_right
        (c + (k + B * c) * ∑ i ∈ Finset.range levels, B ^ i) (hB domain text htext)
      simp only [checkDomain_of_publishes htext, List.cons_append, Log.count_asked,
        Log.count_noted, Log.count_append, Log.count_nil]
      omega
    · obtain ⟨v, line, hstep, -⟩ :=
        checkDomain_of_not_publishes ip levels (not_exists.1 hpublishes)
      rw [hstep]
      simp
      omega

/-- Every redirect that is followed uses up a level. -/
theorem length_redirectChain_le (dns : Dns.Resolver) (ip : Ip.Address) (levels : Nat)
    (domain : String) : (checkDomain dns ip levels domain).1.redirectChain.length ≤ levels := by
  induction levels generalizing domain with
  | zero => simp [checkDomain, Verdict.faulty]
  | succ levels ih =>
    by_cases hpublishes : ∃ text, Publishes dns domain text
    · obtain ⟨text, htext⟩ := hpublishes
      simp only [checkDomain_of_publishes htext]
      refine scan_verdict (P := fun v => v.redirectChain.length ≤ levels + 1) _ _ ?_ ?_
      · intro term v hv
        simp [hv.redirectChain_eq_nil]
      · intro redirect
        cases redirect with
        | none => exact Nat.zero_le _
        | some target =>
          by_cases htarget : target = ""
          · subst htarget
            exact Nat.zero_le _
          · rw [fallThrough_of_redirect _ _ _ htarget]
            exact Nat.succ_le_succ (ih target)
    · obtain ⟨v, line, hstep, hv⟩ :=
        checkDomain_of_not_publishes ip levels (not_exists.1 hpublishes)
      rw [hstep]
      rcases hv with ⟨_, _, rfl⟩ | ⟨_, _, _, rfl⟩ | ⟨_, _, _, rfl⟩ <;> exact Nat.zero_le _

/-! ## Evaluations -/

/-- Whatever the answers are, and however the records refer to each other, the queries and the
redirects of an evaluation are bounded by the sizes of the records and of the exchanger lists. -/
theorem queries_bounded (dns : Dns.Resolver) (ip : Ip.Address) (domain : String) (B M : Nat)
    (hB : ∀ name texts, dns.txt name = .ok texts → ∀ text ∈ texts, IsPolicy text →
      (tokensOf (Text.trim text).toList).length ≤ B)
    (hM : ∀ name hosts, dns.mx name = .ok hosts → hosts.length ≤ M) :
    (evaluate dns domain ip).queries.countP (·.isTxt) ≤ ∑ i ∈ Finset.range 8, B ^ i ∧
      (evaluate dns domain ip).queries.countP (!·.isTxt) ≤
        (1 + M) * B * ∑ i ∈ Finset.range 8, B ^ i ∧
      (evaluate dns domain ip).verdict.redirectChain.length ≤ 8 := by
  have hpublished : ∀ name text, Publishes dns name text →
      (tokensOf (Text.trim text).toList).length ≤ B := by
    rintro name text ⟨htext, before, after, htxt, -⟩
    exact hB name _ htxt text (by simp) htext
  rw [evaluate_eq]
  refine ⟨?_, ?_, length_redirectChain_le dns ip maxDepth _⟩
  · have hdirect : ∀ domain m, (directTest dns ip domain m).2.count (·.isTxt) ≤ 0 := by
      intro domain m
      refine (List.countP_eq_zero.2 fun query hquery => ?_).le
      simp [directTest_isTxt dns ip domain hquery]
    have hdomain : ∀ domain, (if (Dns.Query.txt domain).isTxt then 1 else 0) ≤ 1 :=
      fun _ => Nat.le_refl 1
    have hcount := checkDomain_count_le hpublished hdirect hdomain maxDepth
      (normalizeDomain domain)
    rw [Nat.mul_zero, Nat.add_zero, Nat.one_mul] at hcount
    exact hcount
  · have hdirect : ∀ domain m, (directTest dns ip domain m).2.count (!·.isTxt) ≤ 1 + M :=
      fun domain m => List.countP_le_length.trans (length_directTest_queries dns ip domain hM m)
    have hdomain : ∀ domain, (if !(Dns.Query.txt domain).isTxt then 1 else 0) ≤ 0 :=
      fun _ => Nat.le_refl 0
    have hcount := checkDomain_count_le hpublished hdirect hdomain maxDepth
      (normalizeDomain domain)
    rw [Nat.zero_add, Nat.mul_comm B] at hcount
    exact hcount

/-- Answers in which every name has the same exchanger and leads back to one domain twice. -/
def cyclicZone : Dns.Resolver where
  txt _ := .ok ["v=spf1 mx include:loop.test redirect=loop.test"]
  address _ _ := .ok []
  mx _ := .ok ["mail.loop.test."]

theorem queries_bounded_cyclicZone :
    let e := evaluate cyclicZone "loop.test" (.v4 ⟨192, 0, 2, 1⟩)
    e.queries.countP (·.isTxt) ≤ ∑ i ∈ Finset.range 8, 3 ^ i ∧
      e.queries.countP (!·.isTxt) ≤ (1 + 1) * 3 * ∑ i ∈ Finset.range 8, 3 ^ i ∧
      e.verdict.redirectChain.length ≤ 8 := by
  refine queries_bounded cyclicZone (.v4 ⟨192, 0, 2, 1⟩) "loop.test" 3 1 ?_ ?_
  · intro name texts htxt text htext hpolicy
    obtain rfl := Except.ok.inj htxt
    obtain rfl := List.mem_singleton.1 htext
    decide
  · intro name hosts hmx
    obtain rfl := Except.ok.inj hmx
    exact Nat.le_refl 1

end SpamVerdict.Spf
