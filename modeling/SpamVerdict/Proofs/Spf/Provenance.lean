import Mathlib.Data.List.Chain
import SpamVerdict.Proofs.Spf.FailedQueries
set_option autoImplicit false

/-!
# Where a verdict comes from (SPEC_FULL §3, §4.3)

The chain of redirects is put together from its end, while the evaluation returns.  Read from its
start it is a path through what is published: each domain on it publishes one policy and hands the
verdict on to the target of the last redirect in it (`HandsOn`).  The record of a verdict is the
policy of the domain at the end, and there is none only where that domain has no single policy to
show or is not looked up any more (`verdict_provenance`).

SPEC_FULL §3 has an evaluation name "the exact SPF record text that produced the result" and the
domains that were followed; §4.3, step 5, puts the chain together.
-/

namespace SpamVerdict.Spf

/-! ## What a domain publishes -/

/-- A token redirects to a value: it is the keyword in any ASCII case, and the value. -/
def Redirects (token value : List Char) : Prop :=
  ∃ key, token = key ++ value ∧ key.map Char.toLower = "redirect=".toList

/-- The value of the last token of a record that redirects. -/
def LastRedirect (record : String) (value : List Char) : Prop :=
  ∃ before token after, tokensOf record.toList = before ++ token :: after ∧
    Redirects token value ∧ ∀ later ∈ after, ∀ other, ¬ Redirects later other

/-- A domain publishes one policy, and the last redirect in it leads to another domain. -/
def HandsOn (dns : Dns.Resolver) (domain next : String) : Prop :=
  ∃ text value, Publishes dns domain text ∧ LastRedirect (Text.trim text) value ∧
    next = String.ofList (Text.lowerChars value)

/-- There is more than one policy among the text records of a domain. -/
def PublishesSeveral (dns : Dns.Resolver) (domain : String) : Prop :=
  ∃ before first between second after,
    dns.txt domain = .ok (before ++ first :: (between ++ second :: after)) ∧
      IsPolicy first ∧ IsPolicy second

theorem publishesSeveral_iff {dns : Dns.Resolver} {domain : String} :
    PublishesSeveral dns domain ↔
      ∃ texts, dns.txt domain = .ok texts ∧ 2 ≤ (recordsAmong texts).length := by
  constructor
  · rintro ⟨before, first, between, second, after, htxt, hfirst, hsecond⟩
    exact ⟨_, htxt, two_le_length_recordsAmong_iff.2
      ⟨before, first, between, second, after, rfl, hfirst, hsecond⟩⟩
  · rintro ⟨texts, htxt, hseveral⟩
    obtain ⟨before, first, between, second, after, rfl, hfirst, hsecond⟩ :=
      two_le_length_recordsAmong_iff.1 hseveral
    exact ⟨before, first, between, second, after, htxt, hfirst, hsecond⟩

theorem Publishes.not_publishesSeveral {dns : Dns.Resolver} {domain text : String}
    (htext : Publishes dns domain text) : ¬ PublishesSeveral dns domain := by
  rw [publishesSeveral_iff]
  rintro ⟨texts, htxt, hseveral⟩
  have hone : recordsAmong texts = [Text.trim text] := (publishes_iff htxt).2 ⟨text, htext, rfl⟩
  rw [hone, List.length_singleton] at hseveral
  exact absurd hseveral (by decide)

/-! ## Redirects -/

theorem redirect?_ofChars_iff {token : List Char} {target : String} :
    (Term.ofChars token).redirect? = some target ↔
      ∃ value, Redirects token value ∧ target = targetOf value := by
  constructor
  · intro h
    unfold Term.ofChars at h
    split at h
    · next value hvalue =>
      obtain ⟨key, htoken, hkey⟩ := Text.afterFold?_eq_some hvalue
      exact ⟨value, ⟨key, htoken, hkey⟩, (Option.some.inj h).symm⟩
    · dsimp only at h
      split at h <;> cases h
  · rintro ⟨value, ⟨key, rfl, hkey⟩, rfl⟩
    have hvalue : Text.afterFold? "redirect=".toList (key ++ value) = some value :=
      Text.afterFold?_append hkey
    rw [Term.ofChars, hvalue]
    rfl

/-- The last redirect among terms stands in the last token that redirects. -/
theorem exists_of_lastRedirect {tokens : List (List Char)} {target : String}
    (h : lastRedirect (tokens.map Term.ofChars) = some target) :
    ∃ before token after value, tokens = before ++ token :: after ∧ Redirects token value ∧
      target = targetOf value ∧ ∀ later ∈ after, ∀ other, ¬ Redirects later other := by
  induction tokens with
  | nil => cases h
  | cons token tokens ih =>
    rw [List.map_cons, lastRedirect_cons] at h
    cases hlater : lastRedirect (tokens.map Term.ofChars) with
    | some later =>
      rw [hlater] at h
      obtain ⟨before, last, after, value, rfl, hlast, htarget, hafter⟩ := ih (hlater.trans h)
      exact ⟨token :: before, last, after, value, rfl, hlast, htarget, hafter⟩
    | none =>
      rw [hlater, Option.none_or] at h
      obtain ⟨value, htoken, htarget⟩ := redirect?_ofChars_iff.1 h
      refine ⟨[], token, tokens, value, rfl, htoken, htarget, fun later hmem other hother => ?_⟩
      have hnone : (Term.ofChars later).redirect? = none := by
        have hall := List.getLast?_eq_none_iff.1 hlater
        exact List.filterMap_eq_nil_iff.1 hall _ (List.mem_map.2 ⟨later, hmem, rfl⟩)
      rw [redirect?_ofChars_iff.2 ⟨other, hother, rfl⟩] at hnone
      cases hnone

/-- A token of a record has no blanks in it, so there is nothing to trim from the value of a
redirect. -/
theorem targetOf_of_mem_tokensOf {cs token value : List Char} (htoken : token ∈ tokensOf cs)
    (hvalue : Redirects token value) : targetOf value = String.ofList (Text.lowerChars value) := by
  obtain ⟨key, rfl, -⟩ := hvalue
  have hblank : ∀ c ∈ value, Text.isBlank c = false := fun c hc =>
    Text.isBlank_eq_false_of_mem_words (List.mem_filter.1 htoken).1 c (List.mem_append_right key hc)
  rw [targetOf, Text.trimOf_eq_self hblank]

theorem handsOn_of_lastRedirect {dns : Dns.Resolver} {domain text target : String}
    (htext : Publishes dns domain text)
    (hredirect : lastRedirect (termsOf (Text.trim text)) = some target) :
    HandsOn dns domain target := by
  obtain ⟨before, token, after, value, htokens, htoken, rfl, hafter⟩ :=
    exists_of_lastRedirect hredirect
  have hmem : token ∈ tokensOf (Text.trim text).toList := by
    rw [htokens]
    exact List.mem_append_right before List.mem_cons_self
  exact ⟨text, value, htext, ⟨before, token, after, htokens, htoken, hafter⟩,
    targetOf_of_mem_tokensOf hmem htoken⟩

/-! ## Verdicts -/

/-- The path to a verdict on a domain with `levels` levels left, and the record at its end. -/
structure Traced (dns : Dns.Resolver) (levels : Nat) (domain : String) (v : Verdict) : Prop where
  path : List.IsChain (HandsOn dns) (domain :: v.redirectChain)
  /-- The record is the policy of the domain at the end. -/
  published : ∀ record, v.record = some record →
    ∃ text, Publishes dns v.domain text ∧ record = Text.trim text
  /-- There is no record if nothing was found, the look-up failed, one of several policies would
  have to be chosen, or the path uses up all levels. -/
  absent_iff : v.record = none ↔ v.raw = .none ∨ v.raw = .tempError ∨
    PublishesSeveral dns v.domain ∨ v.redirectChain.length = levels

theorem Qualifier.result_ne_none (q : Qualifier) : q.result ≠ .none := by
  cases q <;> decide

section Decided

variable {dns : Dns.Resolver} {ip : Ip.Address} {judged : String → Verdict → Prop}
  {domain record : String} {term : Term} {v : Verdict}

theorem Decides.record_eq (h : Decides dns ip judged domain record term v) :
    v.record = some record := by
  cases h <;> rfl

theorem Decides.raw_ne_none (h : Decides dns ip judged domain record term v) :
    v.raw ≠ .none := by
  cases h with
  | found hm => exact Qualifier.result_ne_none _
  | _ => exact (by decide : Result.permError ≠ .none)

end Decided

namespace Traced

variable {dns : Dns.Resolver} {levels : Nat} {domain text target : String} {v : Verdict}

/-- A verdict that a domain gives by the policy that it publishes. -/
theorem of_record (htext : Publishes dns domain text) (hdomain : v.domain = domain)
    (hrecord : v.record = some (Text.trim text)) (hchain : v.redirectChain = [])
    (hraw : v.raw ≠ .none ∧ v.raw ≠ .tempError) : Traced dns (levels + 1) domain v where
  path := by
    rw [hchain]
    exact .singleton domain
  published record h := by
    rw [hdomain]
    exact ⟨text, htext, Option.some.inj (h.symm.trans hrecord)⟩
  absent_iff := by
    rw [hrecord, hdomain, hchain]
    simp [hraw, htext.not_publishesSeveral]

/-- A verdict on a domain that has no single policy to show. -/
theorem of_no_record (hrecord : v.record = none) (hchain : v.redirectChain = [])
    (hwhy : v.raw = .none ∨ v.raw = .tempError ∨ PublishesSeveral dns v.domain ∨ 0 = levels) :
    Traced dns levels domain v where
  path := by
    rw [hchain]
    exact .singleton domain
  published record h := by
    rw [hrecord] at h
    cases h
  absent_iff := by
    rw [hchain]
    exact ⟨fun _ => hwhy, fun _ => hrecord⟩

/-- After a redirect the path starts one domain earlier. -/
theorem redirected (hdomain : HandsOn dns domain target) (h : Traced dns levels target v) :
    Traced dns (levels + 1) domain { v with redirectChain := target :: v.redirectChain } where
  path := .cons_cons hdomain h.path
  published := h.published
  absent_iff := by
    rw [List.length_cons, Nat.add_right_cancel_iff]
    exact h.absent_iff

end Traced

section Records

variable {dns : Dns.Resolver} {ip : Ip.Address} {visit : String → Step} {levels : Nat}
  {domain text : String}

theorem fallThrough_traced (htext : Publishes dns domain text)
    (hvisit : ∀ target, Traced dns levels target (visit target).1) :
    Traced dns (levels + 1) domain (fallThrough visit domain (Text.trim text)
      (lastRedirect (termsOf (Text.trim text)))).1 := by
  have hneutral : Result.neutral ≠ .none ∧ Result.neutral ≠ .tempError := by decide
  have hpermError : Result.permError ≠ .none ∧ Result.permError ≠ .tempError := by decide
  cases hredirect : lastRedirect (termsOf (Text.trim text)) with
  | none => exact .of_record htext rfl rfl rfl hneutral
  | some target =>
    by_cases htarget : target = ""
    · subst htarget
      exact .of_record htext rfl rfl rfl hpermError
    · rw [fallThrough_of_redirect _ _ _ htarget]
      exact .redirected (handsOn_of_lastRedirect htext hredirect) (hvisit target)

theorem scan_traced (htext : Publishes dns domain text)
    (hvisit : ∀ target, Traced dns levels target (visit target).1) :
    Traced dns (levels + 1) domain (scan dns ip visit domain (Text.trim text) none
      (tokensOf (Text.trim text).toList)).1 := by
  rcases open_or_settled dns ip visit domain (Text.trim text) (tokensOf (Text.trim text).toList)
    with hopen | ⟨before, token, after, v, htokens, hbefore, htoken⟩
  · rw [scan_open hopen, ← termsOf, Option.or_none]
    -- The pair is taken apart first, lest the two logs are compared.
    dsimp only
    exact fallThrough_traced htext hvisit
  · have hv := decides_of_attempt htoken
    rw [htokens, scan_settled hbefore htoken]
    exact .of_record htext hv.domain_eq hv.record_eq hv.redirectChain_eq_nil
      ⟨hv.raw_ne_none, hv.raw_ne_tempError⟩

end Records

/-- At every level the verdict on a domain can be traced. -/
theorem checkDomain_traced (dns : Dns.Resolver) (ip : Ip.Address) (levels : Nat)
    (domain : String) : Traced dns levels domain (checkDomain dns ip levels domain).1 := by
  induction levels generalizing domain with
  | zero => exact .of_no_record rfl rfl (.inr (.inr (.inr rfl)))
  | succ levels ih =>
    by_cases hpublishes : ∃ text, Publishes dns domain text
    · obtain ⟨text, htext⟩ := hpublishes
      simp only [checkDomain_of_publishes htext]
      exact scan_traced htext ih
    · obtain ⟨v, line, hstep, hv⟩ :=
        checkDomain_of_not_publishes ip levels (not_exists.1 hpublishes)
      rw [hstep]
      rcases hv with ⟨fault, -, rfl⟩ | ⟨texts, -, -, rfl⟩ | ⟨texts, htxt, hseveral, rfl⟩
      · exact .of_no_record rfl rfl (.inr (.inl rfl))
      · exact .of_no_record rfl rfl (.inl rfl)
      · have hdomain := publishesSeveral_iff.2 ⟨texts, htxt, hseveral⟩
        exact .of_no_record rfl rfl (.inr (.inr (.inl hdomain)))

/-! ## Evaluations -/

/-- The verdict of an evaluation comes from the end of its redirects.  Each domain on the way
publishes one policy, whose last redirect leads to the next.  A record is the policy that the
domain at the end publishes, and it is absent exactly if nothing was found there, the look-up
failed, several policies were found, or the redirects reach the recursion limit. -/
theorem verdict_provenance (dns : Dns.Resolver) (domain : String) (ip : Ip.Address) :
    let v := (evaluate dns domain ip).verdict
    let start := normalizeDomain domain
    v.domain = v.redirectChain.getLast?.getD start ∧
      List.IsChain (HandsOn dns) (start :: v.redirectChain) ∧
      (∀ record, v.record = some record →
        ∃ text, Publishes dns v.domain text ∧ record = Text.trim text) ∧
      (v.record = none ↔ v.raw = .none ∨ v.raw = .tempError ∨ PublishesSeveral dns v.domain ∨
        v.redirectChain.length = 8) := by
  intro v start
  have htraced : Traced dns 8 start v := checkDomain_traced dns ip maxDepth start
  have hdomain : v.domain = v.redirectChain.getLast?.getD start :=
    (checkDomain_sourced dns ip maxDepth start).domain_eq
  exact ⟨hdomain, htraced.path, htraced.published, htraced.absent_iff⟩

/-- Answers in which a policy is handed on twice, beside an `include` that redirects as well. -/
def forwardedZone : Dns.Resolver where
  txt
    | "start.test" => .ok ["v=spf1 redirect=lost.test include:side.test REDIRECT=Next.test"]
    | "side.test" => .ok ["v=spf1 redirect=lost.test"]
    | "next.test" => .ok ["verification=1", "v=spf1 redirect=end.test"]
    | "end.test" => .ok [" V=SPF1 -all "]
    | _ => .error .timeout
  address _ _ := .ok []
  mx _ := .ok []

theorem verdict_provenance_forwardedZone :
    let v := (evaluate forwardedZone " Start.test " (.v4 ⟨192, 0, 2, 1⟩)).verdict
    v = ⟨"end.test", .fail, some "V=SPF1 -all", ["next.test", "end.test"], none⟩ ∧
      ∃ text, Publishes forwardedZone v.domain text ∧ "V=SPF1 -all" = Text.trim text := by
  intro v
  have hv : v = ⟨"end.test", .fail, some "V=SPF1 -all", ["next.test", "end.test"], none⟩ := by
    decide +kernel
  have hrecord : v.record = some "V=SPF1 -all" := congrArg Verdict.record hv
  exact ⟨hv,
    (verdict_provenance forwardedZone " Start.test " (.v4 ⟨192, 0, 2, 1⟩)).2.2.1 _ hrecord⟩

end SpamVerdict.Spf
