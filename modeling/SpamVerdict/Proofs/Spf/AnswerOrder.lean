import Mathlib.Data.List.Perm.Basic
import SpamVerdict.Dns.Table
import SpamVerdict.Proofs.Spf.Rules
set_option autoImplicit false

/-!
# The order of answers does not matter (SPEC_FULL §4.2, §4.3)

Name servers rotate their answers, so two evaluations of one domain may see every answer in a
different order.  Two tables that fail on the same queries and otherwise answer alike up to order
(`SameAnswers`) are evaluated side by side here.  The loop over exchangers may stop at another host
in each run, but a mechanism matches in both or in neither (`directTest_congr`), so the runs try the
same tokens, visit the same domains and end in the same verdict (`checkDomain_sameVerdict`).

SPEC_FULL §4.3 ends a failed look-up of text records in a temperror whose text is that of the
failure.  So the reason of that one failure, and nothing else of the tables, shows in the error
(`failureReason_shows`).  Tables of listed records fail for one reason only, and there the order in
which records are listed shows in nothing (`evaluate_reordered`).
-/

namespace SpamVerdict.Spf

/-- Whether a text is published as a policy can be computed. -/
instance : DecidablePred IsPolicy :=
  fun text => decidable_of_iff _ (isRecord_trim_iff text)

/-! ## Tables -/

/-- Two look-ups fail both, or have answers that are related. -/
inductive Agree {α : Type} (related : α → α → Prop) :
    Except Dns.Fault α → Except Dns.Fault α → Prop where
  | failed (f g : Dns.Fault) : Agree related (.error f) (.error g)
  | answered {s t : α} (h : related s t) : Agree related (.ok s) (.ok t)

/-- Two tables fail on the same queries and give the same answers: the policies among the text
records up to order, whatever other texts stand beside them, and the addresses and the exchangers
as sets. -/
structure SameAnswers (x y : Dns.Resolver) : Prop where
  txt (name : String) :
    Agree (fun s t => (s.filter (IsPolicy ·)).Perm (t.filter (IsPolicy ·)))
      (x.txt name) (y.txt name)
  address (family : Ip.Family) (name : String) :
    Agree (fun s t => ∀ address, address ∈ s ↔ address ∈ t)
      (x.address family name) (y.address family name)
  mx (name : String) : Agree (fun s t => ∀ host, host ∈ s ↔ host ∈ t) (x.mx name) (y.mx name)

/-- Two verdicts are the same but for the reason, if any, why the text records of the domain that
they come from could not be looked up. -/
structure SameVerdict (x y : Dns.Resolver) (v w : Verdict) : Prop where
  domain : v.domain = w.domain
  raw : v.raw = w.raw
  record : v.record = w.record
  redirectChain : v.redirectChain = w.redirectChain
  fault : v.fault = w.fault ∨ ∃ f g, x.txt v.domain = .error f ∧ y.txt v.domain = .error g ∧
    v.fault = some (.lookupFailed f) ∧ w.fault = some (.lookupFailed g)

theorem SameVerdict.refl (x y : Dns.Resolver) (v : Verdict) : SameVerdict x y v v :=
  ⟨rfl, rfl, rfl, rfl, .inl rfl⟩

theorem SameVerdict.hitLimit_eq {x y : Dns.Resolver} {v w : Verdict} (h : SameVerdict x y v w) :
    v.hitLimit = w.hitLimit := by
  rcases h.fault with hfault | ⟨f, g, -, -, hv, hw⟩
  · rw [Verdict.hitLimit, Verdict.hitLimit, hfault]
  · rw [Verdict.hitLimit, Verdict.hitLimit, hv, hw]
    rfl

/-- Where the look-ups fail for the same reasons, nothing is left in which the verdicts differ. -/
theorem SameVerdict.eq {x y : Dns.Resolver} {v w : Verdict} (h : SameVerdict x y v w)
    (hreasons : ∀ name f g, x.txt name = .error f → y.txt name = .error g → f = g) : v = w := by
  have hfault : v.fault = w.fault := by
    rcases h.fault with hfault | ⟨f, g, hx, hy, hv, hw⟩
    · exact hfault
    · rw [hv, hw, hreasons _ f g hx hy]
  cases v
  cases w
  obtain ⟨rfl, rfl, rfl, rfl, -⟩ := h
  obtain rfl := hfault
  rfl

/-! ## Look-ups -/

section Lookups

variable {x y : Dns.Resolver} (h : SameAnswers x y) (ip : Ip.Address)

include h

theorem hasAddress_congr (name : String) : HasAddress x ip name ↔ HasAddress y ip name := by
  refine and_congr_right fun _ => ?_
  have haddress := h.address ip.family name
  generalize x.address ip.family name = s at haddress
  generalize y.address ip.family name = t at haddress
  cases haddress with
  | failed f g => simp
  | answered hsame => simpa using hsame ip

theorem hasExchanger_congr (name : String) : HasExchanger x ip name ↔ HasExchanger y ip name := by
  refine and_congr_right fun _ => ?_
  have hmx := h.mx name
  generalize x.mx name = s at hmx
  generalize y.mx name = t at hmx
  cases hmx with
  | failed f g => simp
  | answered hsame => simp [hsame, hasAddress_congr h ip]

/-- A mechanism that looks at no other policy matches with both tables or with neither. -/
theorem directTest_congr (domain : String) (m : Mechanism) :
    (directTest x ip domain m).1 = (directTest y ip domain m).1 :=
  directTest_eq_of_iff (hasAddress_congr h ip) (hasExchanger_congr h ip) m

end Lookups

/-! ## Records -/

section Records

variable {x y : Dns.Resolver} {ip : Ip.Address} {visit visit' : String → Step}

/-- A token settles the same verdict in both runs.  An `include` swallows the reason of a failed
look-up below it, so the verdicts do not differ even in that. -/
theorem attempt_congr (h : SameAnswers x y)
    (hvisit : ∀ target, SameVerdict x y (visit target).1 (visit' target).1)
    (domain record : String) (token : List Char) :
    (attempt x ip visit domain record token).1 = (attempt y ip visit' domain record token).1 :=
  attempt_verdict_congr (fun _ m _ => directTest_congr h ip domain m)
    (fun target => (hvisit target).hitLimit_eq) (fun target => by rw [(hvisit target).raw])

theorem fallThrough_sameVerdict
    (hvisit : ∀ target, SameVerdict x y (visit target).1 (visit' target).1)
    (domain record : String) (redirect : Option String) :
    SameVerdict x y (fallThrough visit domain record redirect).1
      (fallThrough visit' domain record redirect).1 := by
  cases redirect with
  | none => exact .refl x y _
  | some target =>
    by_cases htarget : target = ""
    · subst htarget
      exact .refl x y _
    · have hsame := hvisit target
      rw [fallThrough_of_redirect _ _ _ htarget, fallThrough_of_redirect _ _ _ htarget]
      exact ⟨hsame.domain, hsame.raw, hsame.record, congrArg (target :: ·) hsame.redirectChain,
        hsame.fault⟩

theorem scan_sameVerdict (h : SameAnswers x y)
    (hvisit : ∀ target, SameVerdict x y (visit target).1 (visit' target).1)
    (domain record : String) (redirect : Option String) (tokens : List (List Char)) :
    SameVerdict x y (scan x ip visit domain record redirect tokens).1
      (scan y ip visit' domain record redirect tokens).1 := by
  refine scan_verdict_congr (.refl x y) (fallThrough_sameVerdict hvisit domain record) ?_ redirect
  exact fun token _ => attempt_congr h hvisit domain record token

theorem checkRecord_sameVerdict (h : SameAnswers x y)
    (hvisit : ∀ target, SameVerdict x y (visit target).1 (visit' target).1)
    (domain text : String) :
    SameVerdict x y (checkRecord x ip visit domain text).1
      (checkRecord y ip visit' domain text).1 := by
  by_cases htext : IsPolicy text
  · rw [checkRecord_of_isPolicy htext, checkRecord_of_isPolicy htext]
    exact scan_sameVerdict h hvisit domain _ _ _
  · rw [checkRecord_of_not_isPolicy htext, checkRecord_of_not_isPolicy htext]
    exact .refl x y _

end Records

/-! ## Domains -/

theorem recordsAmong_eq_map_filter (texts : List String) :
    recordsAmong texts = (texts.filter (IsPolicy ·)).map Text.trim := by
  have hpolicy : (fun record : String => isRecord record.toList) ∘ Text.trim =
      fun text => decide (IsPolicy text) := by
    funext text
    rw [Bool.eq_iff_iff, Function.comp_apply, isRecord_trim_iff, decide_eq_true_iff]
  rw [recordsAmong, List.filter_map, hpolicy]

/-- At every level the two runs end in the same verdict. -/
theorem checkDomain_sameVerdict {x y : Dns.Resolver} (h : SameAnswers x y) (ip : Ip.Address)
    (levels : Nat) (domain : String) :
    SameVerdict x y (checkDomain x ip levels domain).1 (checkDomain y ip levels domain).1 := by
  induction levels generalizing domain with
  | zero => exact .refl x y _
  | succ levels ih =>
    have htxt := h.txt domain
    generalize hx : x.txt domain = s at htxt
    generalize hy : y.txt domain = t at htxt
    cases htxt with
    | failed f g =>
      rw [checkDomain_of_error hx, checkDomain_of_error hy]
      exact ⟨rfl, rfl, rfl, rfl, .inr ⟨f, g, hx, hy, rfl, rfl⟩⟩
    | @answered s t hsame =>
      have hrecords : (recordsAmong s).Perm (recordsAmong t) := by
        rw [recordsAmong_eq_map_filter, recordsAmong_eq_map_filter]
        exact hsame.map Text.trim
      rcases hs : recordsAmong s with _ | ⟨record, _ | ⟨second, records⟩⟩
      · have ht : recordsAmong t = [] := List.nil_perm.1 (hs ▸ hrecords)
        rw [checkDomain_of_none hx hs, checkDomain_of_none hy ht]
        exact .refl x y _
      · have ht : recordsAmong t = [record] := (List.singleton_perm.1 (hs ▸ hrecords)).symm
        rw [checkDomain_of_one hx hs, checkDomain_of_one hy ht]
        exact checkRecord_sameVerdict h ih domain record
      · have hmany : 2 ≤ (recordsAmong s).length := by simp [hs]
        rw [checkDomain_of_several hx hmany,
          checkDomain_of_several hy (hrecords.length_eq ▸ hmany)]
        exact .refl x y _

/-! ## Evaluations -/

/-- Whatever order the answers come in, and whatever other texts stand beside a policy, evaluations
agree in everything but the reason that a failed query for text records gives, and where the
tables fail for the same reasons they agree in that too. -/
theorem answerOrder_irrelevant {x y : Dns.Resolver} (h : SameAnswers x y) (domain : String)
    (ip : Ip.Address) :
    SameVerdict x y (evaluate x domain ip).verdict (evaluate y domain ip).verdict ∧
      (evaluate x domain ip).outcome = (evaluate y domain ip).outcome ∧
      ((∀ name f g, x.txt name = .error f → y.txt name = .error g → f = g) →
        (evaluate x domain ip).verdict = (evaluate y domain ip).verdict ∧
          (evaluate x domain ip).error = (evaluate y domain ip).error) := by
  have hsame : SameVerdict x y (evaluate x domain ip).verdict (evaluate y domain ip).verdict :=
    checkDomain_sameVerdict h ip maxDepth (normalizeDomain domain)
  refine ⟨hsame, congrArg Result.outcome hsame.raw, fun hreasons => ?_⟩
  have hverdict := hsame.eq hreasons
  exact ⟨hverdict, congrArg (fun v => v.fault.map Fault.message) hverdict⟩

/-- A table of answers for a domain with two exchangers. -/
def plainZone : Dns.Resolver where
  txt _ := .ok ["v=spf1 mx include:missing.test -all"]
  address
    | .v4, "one.test" => .ok [.v4 ⟨192, 0, 2, 1⟩, .v4 ⟨192, 0, 2, 2⟩]
    | .v4, _ => .ok [.v4 ⟨192, 0, 2, 2⟩]
    | .v6, _ => .error .timeout
  mx _ := .ok ["one.test", "two.test"]

/-- The same answers in another order, with another text beside the policy. -/
def rotatedZone : Dns.Resolver where
  txt _ := .ok ["verification=1", "v=spf1 mx include:missing.test -all"]
  address
    | .v4, "one.test" => .ok [.v4 ⟨192, 0, 2, 2⟩, .v4 ⟨192, 0, 2, 1⟩]
    | .v4, _ => .ok [.v4 ⟨192, 0, 2, 2⟩, .v4 ⟨192, 0, 2, 2⟩]
    | .v6, _ => .error .serverFailure
  mx _ := .ok ["two.test", "one.test"]

theorem sameAnswers_rotatedZone : SameAnswers plainZone rotatedZone where
  txt _ := .answered (by decide)
  address family name := by
    unfold plainZone rotatedZone
    dsimp only
    split
    · exact .answered (by simp [or_comm])
    · exact .answered (by simp)
    · exact .failed _ _
  mx _ := .answered (by simp [or_comm])

theorem answerOrder_irrelevant_rotatedZone :
    (evaluate plainZone "example.test" (.v4 ⟨192, 0, 2, 2⟩)).verdict =
      (evaluate rotatedZone "example.test" (.v4 ⟨192, 0, 2, 2⟩)).verdict :=
  ((answerOrder_irrelevant sameAnswers_rotatedZone "example.test" (.v4 ⟨192, 0, 2, 2⟩)).2.2
    fun _ _ _ hx _ => by cases hx).1

/-- Answers under which no text records can be looked up, for one reason. -/
def mutedZone (fault : Dns.Fault) : Dns.Resolver where
  txt _ := .error fault
  address _ _ := .ok []
  mx _ := .ok []

/-- Two tables fail on the same queries and answer all others alike, and still the errors of the
evaluations differ: each of them tells why its own look-up failed. -/
theorem failureReason_shows :
    let ip := Ip.Address.v4 ⟨192, 0, 2, 1⟩
    SameAnswers (mutedZone .timeout) (mutedZone .serverFailure) ∧
      (evaluate (mutedZone .timeout) "start.test" ip).error =
        some "DNS TXT lookup failed: DNS query timed out" ∧
      (evaluate (mutedZone .serverFailure) "start.test" ip).error =
        some "DNS TXT lookup failed: DNS server failure" := by
  intro ip
  have hsame : SameAnswers (mutedZone .timeout) (mutedZone .serverFailure) :=
    ⟨fun _ => .failed _ _, fun _ _ => .answered fun _ => .rfl, fun _ => .answered fun _ => .rfl⟩
  exact ⟨hsame, by decide +kernel, by decide +kernel⟩

/-! ## Listed records -/

theorem perm_valuesOf {α : Type} {s t : List (String × α)} (h : s.Perm t) (key : String) :
    (Dns.valuesOf key s).Perm (Dns.valuesOf key t) :=
  (h.filter _).map _

/-- A table whose records are those of another one, listed in any order, and that fails for the
same names. -/
structure Reordered (s t : Dns.Table) : Prop where
  txt : s.txt.Perm t.txt
  addresses : s.addresses.Perm t.addresses
  mx : s.mx.Perm t.mx
  failing (name : String) : name ∈ s.failing ↔ name ∈ t.failing

theorem Reordered.agree {s t : Dns.Table} (h : Reordered s t) {α : Type}
    {related : List α → List α → Prop} (of : Dns.Table → String → List α)
    (hof : ∀ key, related (of s key) (of t key)) (name : String) :
    Agree related (s.answer name (of s)) (t.answer name (of t)) := by
  have hfailing := h.failing (Text.lower name)
  unfold Dns.Table.answer
  by_cases hname : Text.lower name ∈ s.failing
  · simpa [hname, hfailing.1 hname] using Agree.failed _ _
  · simpa [hname, mt hfailing.2 hname] using Agree.answered (hof _)

theorem Reordered.sameAnswers {s t : Dns.Table} (h : Reordered s t) :
    SameAnswers s.resolver t.resolver where
  txt := h.agree (fun t key => Dns.valuesOf key t.txt) fun key =>
    (perm_valuesOf h.txt key).filter (IsPolicy ·)
  address family :=
    h.agree (fun t key => (Dns.valuesOf key t.addresses).filter (·.family = family)) fun key _ =>
      ((perm_valuesOf h.addresses key).filter (·.family = family)).mem_iff
  mx := h.agree (fun t key => Dns.valuesOf key t.mx) fun key _ => (perm_valuesOf h.mx key).mem_iff

/-- A listed name fails for one reason only. -/
theorem fault_of_txt_error {t : Dns.Table} {name : String} {f : Dns.Fault}
    (h : t.resolver.txt name = .error f) : f = .serverFailure := by
  simp only [Dns.Table.resolver, Dns.Table.answer] at h
  split at h
  · simpa using h.symm
  · cases h

/-- The order in which records are listed shows in no part of a verdict. -/
theorem evaluate_reordered {s t : Dns.Table} (h : Reordered s t) (domain : String)
    (ip : Ip.Address) :
    (evaluate s.resolver domain ip).verdict = (evaluate t.resolver domain ip).verdict := by
  refine (checkDomain_sameVerdict h.sameAnswers ip maxDepth (normalizeDomain domain)).eq ?_
  intro name f g hf hg
  rw [fault_of_txt_error hf, fault_of_txt_error hg]

end SpamVerdict.Spf
