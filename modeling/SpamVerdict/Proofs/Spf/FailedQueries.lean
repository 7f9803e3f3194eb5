import SpamVerdict.Proofs.Spf.Rules
set_option autoImplicit false

/-!
# Failed queries are absorbed (SPEC_FULL §4.2, §4.3, §7)

A table of answers may fail on any of its queries.  Here it is evaluated side by side with a table
in which some of the failed queries have the empty answer instead (`Excuses`).  Both evaluations
make the same queries and end in the same verdict, but for one case: where the text records of the
domain at the end of the redirects could not be looked up, the second evaluation finds no policy
there (`checkDomain_excused`).  That is also the only way to a temporary error
(`checkDomain_sourced`).

SPEC_FULL §4.2 keeps a transport failure apart from "zero records found".  The distinction is made
in step 2 of §4.3 and nowhere else: behind an `include`, and for addresses and exchangers, the two
come to the same.
-/

namespace SpamVerdict.Dns

/-! ## Tables without failures -/

/-- An answer, empty if the query failed. -/
def orEmpty {α : Type} : Except Fault (List α) → Except Fault (List α)
  | .error _ => .ok []
  | .ok answers => .ok answers

namespace Resolver

/-- The table in which failed queries for addresses and exchangers have the empty answer. -/
def excuseHosts (r : Resolver) : Resolver where
  txt := r.txt
  address family name := orEmpty (r.address family name)
  mx name := orEmpty (r.mx name)

/-- The table in which every failed query has the empty answer. -/
def excuseAll (r : Resolver) : Resolver :=
  { r.excuseHosts with txt := fun name => orEmpty (r.txt name) }

end Resolver

end SpamVerdict.Dns

namespace SpamVerdict.Spf

/-- A verdict when a failed query for text records counts as one without an answer. -/
def Verdict.excused (v : Verdict) : Verdict :=
  if v.raw = .tempError then { v with raw := .none, fault := none } else v

/-! ## Where temporary errors come from -/

/-- The step for a domain: its verdict comes from the end of the redirects, and a temporary error
only from the query for the text records there, which is the last one. -/
structure Sourced (dns : Dns.Resolver) (domain : String) (step : Step) : Prop where
  domain_eq : step.1.domain = step.1.redirectChain.getLast?.getD domain
  lookup : step.1.raw = .tempError → ∃ fault, step.1.fault = some (.lookupFailed fault) ∧
    dns.txt step.1.domain = .error fault
  last : step.1.raw = .tempError → step.2.queries.getLast? = some (.txt step.1.domain)

theorem Qualifier.result_ne_tempError (q : Qualifier) : q.result ≠ .tempError := by
  cases q <;> decide

theorem Decides.domain_eq {dns : Dns.Resolver} {ip : Ip.Address}
    {judged : String → Verdict → Prop} {domain record : String} {term : Term} {v : Verdict}
    (h : Decides dns ip judged domain record term v) : v.domain = domain := by
  cases h <;> rfl

theorem Decides.raw_ne_tempError {dns : Dns.Resolver} {ip : Ip.Address}
    {judged : String → Verdict → Prop} {domain record : String} {term : Term} {v : Verdict}
    (h : Decides dns ip judged domain record term v) : v.raw ≠ .tempError := by
  cases h with
  | found hm => exact Qualifier.result_ne_tempError _
  | _ => exact (by decide : Result.permError ≠ .tempError)

namespace Sourced

variable {dns : Dns.Resolver} {domain : String} {v : Verdict} {log start : Log}

/-- A verdict of the domain itself that is no temporary error. -/
theorem of_ne (hdomain : v.domain = domain) (hchain : v.redirectChain = [])
    (hraw : v.raw ≠ .tempError) : Sourced dns domain (v, log) where
  domain_eq := by rw [hchain]; exact hdomain
  lookup h := absurd h hraw
  last h := absurd h hraw

theorem plain {raw : Result} {record : Option String} (hraw : raw ≠ .tempError) :
    Sourced dns domain (.plain domain raw record, log) :=
  of_ne rfl rfl hraw

theorem faulty {raw : Result} {record : Option String} {fault : Fault}
    (hraw : raw ≠ .tempError) : Sourced dns domain (.faulty domain raw record fault, log) :=
  of_ne rfl rfl hraw

theorem prepend (start : Log) (h : Sourced dns domain (v, log)) :
    Sourced dns domain (v, start ++ log) where
  domain_eq := h.domain_eq
  lookup := h.lookup
  last hraw := by rw [Log.queries_append, List.getLast?_append, h.last hraw, Option.some_or]

theorem append_noted (line : String) (h : Sourced dns domain (v, log)) :
    Sourced dns domain (v, log ++ [.noted line]) where
  domain_eq := h.domain_eq
  lookup := h.lookup
  last hraw := by simpa using h.last hraw

/-- After a redirect the verdict still comes from the end of the redirects. -/
theorem redirected {target : String} (h : Sourced dns target (v, log)) :
    Sourced dns domain ({ v with redirectChain := target :: v.redirectChain }, log) where
  domain_eq := by
    rw [List.getLast?_cons]
    exact h.domain_eq
  lookup := h.lookup
  last := h.last

end Sourced

section Sources

variable {dns : Dns.Resolver} {ip : Ip.Address} {visit : String → Step} {domain record : String}

theorem fallThrough_sourced (hvisit : ∀ target, Sourced dns target (visit target))
    (redirect : Option String) :
    Sourced dns domain (fallThrough visit domain record redirect) := by
  cases redirect with
  | none => exact .plain (by decide)
  | some target =>
    by_cases htarget : target = ""
    · subst htarget
      exact .faulty (by decide)
    · rw [fallThrough_of_redirect _ _ _ htarget]
      exact (Sourced.redirected (hvisit target)).prepend [_]

theorem scan_sourced (hvisit : ∀ target, Sourced dns target (visit target))
    (redirect : Option String) (tokens : List (List Char)) :
    Sourced dns domain (scan dns ip visit domain record redirect tokens) := by
  rcases open_or_settled dns ip visit domain record tokens with
    hopen | ⟨before, token, after, v, rfl, hbefore, htoken⟩
  · rw [scan_open hopen]
    exact (fallThrough_sourced hvisit _).prepend _
  · have hv := decides_of_attempt htoken
    rw [scan_settled hbefore htoken]
    exact .of_ne hv.domain_eq hv.redirectChain_eq_nil hv.raw_ne_tempError

end Sources

theorem checkDomain_sourced (dns : Dns.Resolver) (ip : Ip.Address) (levels : Nat)
    (domain : String) : Sourced dns domain (checkDomain dns ip levels domain) := by
  induction levels generalizing domain with
  | zero => exact .faulty (by decide)
  | succ levels ih =>
    by_cases hpublishes : ∃ text, Publishes dns domain text
    · obtain ⟨text, htext⟩ := hpublishes
      have hscan : Sourced dns domain (scan dns ip (checkDomain dns ip levels) domain
          (Text.trim text) none (tokensOf (Text.trim text).toList)) := scan_sourced ih _ _
      simp only [checkDomain_of_publishes htext]
      generalize scan dns ip (checkDomain dns ip levels) domain (Text.trim text) none
        (tokensOf (Text.trim text).toList) = step at hscan
      exact (hscan.prepend [_, _]).append_noted _
    · obtain ⟨v, line, hstep, hv⟩ :=
        checkDomain_of_not_publishes ip levels (not_exists.1 hpublishes)
      rw [hstep]
      rcases hv with ⟨fault, htxt, rfl⟩ | ⟨_, _, _, rfl⟩ | ⟨_, _, _, rfl⟩
      · exact ⟨rfl, fun _ => ⟨fault, rfl, htxt⟩, fun _ => rfl⟩
      · exact .plain (by decide)
      · exact .faulty (by decide)

/-! ## Two tables -/

/-- An answer is kept, or it is a failure that is excused as empty. -/
inductive Eased {α : Type} : Except Dns.Fault (List α) → Except Dns.Fault (List α) → Prop where
  | kept (answer : Except Dns.Fault (List α)) : Eased answer answer
  | excused (fault : Dns.Fault) : Eased (.error fault) (.ok [])

/-- The second table is the first one with some of the failed queries excused. -/
structure Excuses (x y : Dns.Resolver) : Prop where
  txt (name : String) : Eased (x.txt name) (y.txt name)
  address (family : Ip.Family) (name : String) :
    Eased (x.address family name) (y.address family name)
  mx (name : String) : Eased (x.mx name) (y.mx name)

theorem eased_orEmpty {α : Type} (answer : Except Dns.Fault (List α)) :
    Eased answer (Dns.orEmpty answer) := by
  cases answer with
  | error fault => exact .excused fault
  | ok answers => exact .kept _

theorem excuses_excuseHosts (dns : Dns.Resolver) : Excuses dns dns.excuseHosts where
  txt _ := .kept _
  address _ _ := eased_orEmpty _
  mx _ := eased_orEmpty _

theorem excuses_excuseAll (dns : Dns.Resolver) : Excuses dns dns.excuseAll where
  txt _ := eased_orEmpty _
  address _ _ := eased_orEmpty _
  mx _ := eased_orEmpty _

/-- Two verdicts are the same, or the first one reports a failed query for text records that is
excused for the second one. -/
inductive ExcusedVerdict (x y : Dns.Resolver) : Verdict → Verdict → Prop where
  | same (v : Verdict) : ExcusedVerdict x y v v
  | excused {v : Verdict} {fault : Dns.Fault} (hraw : v.raw = .tempError)
      (hfault : v.fault = some (.lookupFailed fault)) (hx : x.txt v.domain = .error fault)
      (hy : y.txt v.domain = .ok []) :
      ExcusedVerdict x y v { v with raw := .none, fault := none }

/-- Two steps make the same queries and end in the same verdict but for an excused failure. -/
structure ExcusedStep (x y : Dns.Resolver) (s t : Step) : Prop where
  verdict : ExcusedVerdict x y s.1 t.1
  queries : s.2.queries = t.2.queries

namespace ExcusedVerdict

variable {x y : Dns.Resolver} {v w : Verdict}

/-- Neither verdict of the two is more of a pass than the other. -/
theorem pass_iff (h : ExcusedVerdict x y v w) : v.raw = .pass ↔ w.raw = .pass := by
  cases h with
  | same => exact Iff.rfl
  | excused hraw => simp [hraw]

theorem hitLimit_eq (h : ExcusedVerdict x y v w) : v.hitLimit = w.hitLimit := by
  cases h with
  | same => rfl
  | excused _ hfault =>
    rw [Verdict.hitLimit, hfault]
    rfl

theorem redirected (target : String) (h : ExcusedVerdict x y v w) :
    ExcusedVerdict x y { v with redirectChain := target :: v.redirectChain }
      { w with redirectChain := target :: w.redirectChain } := by
  cases h with
  | same => exact .same _
  | excused hraw hfault hx hy => exact .excused hraw hfault hx hy

end ExcusedVerdict

/-! ## Look-ups -/

section Lookups

variable {x y : Dns.Resolver} (h : Excuses x y) (ip : Ip.Address) (domain : String)

theorem addressMatches_queries (dns : Dns.Resolver) (name : String) :
    (addressMatches dns ip domain name).2.queries =
      if name = "" then [] else [.address ip.family name] := by
  unfold addressMatches
  by_cases hname : name = ""
  · simp [hname]
  · cases haddress : dns.address ip.family name <;> simp [hname]

include h

theorem hasAddress_excused (name : String) : HasAddress x ip name ↔ HasAddress y ip name := by
  refine and_congr_right fun _ => ?_
  have haddress := h.address ip.family name
  generalize x.address ip.family name = s at haddress
  generalize y.address ip.family name = t at haddress
  cases haddress with
  | kept => exact Iff.rfl
  | excused fault => simp

theorem hasExchanger_excused (name : String) :
    HasExchanger x ip name ↔ HasExchanger y ip name := by
  refine and_congr_right fun _ => ?_
  have hmx := h.mx name
  generalize x.mx name = s at hmx
  generalize y.mx name = t at hmx
  cases hmx with
  | kept => simp [hasAddress_excused h ip]
  | excused fault => simp

/-- The loop over the exchangers stops at the same one. -/
theorem hostsMatch_queries_excused (hosts : List String) :
    (hostsMatch x ip domain hosts).2.queries = (hostsMatch y ip domain hosts).2.queries := by
  induction hosts with
  | nil => rfl
  | cons host hosts ih =>
    have hfound : (addressMatches x ip domain (Text.trimDots host)).1 =
        (addressMatches y ip domain (Text.trimDots host)).1 := by
      rw [Bool.eq_iff_iff]
      exact (addressMatches_iff x ip domain _).trans
        ((hasAddress_excused h ip _).trans (addressMatches_iff y ip domain _).symm)
    have hqueries : (addressMatches x ip domain (Text.trimDots host)).2.queries =
        (addressMatches y ip domain (Text.trimDots host)).2.queries := by
      rw [addressMatches_queries, addressMatches_queries]
    rw [hostsMatch, hostsMatch]
    generalize addressMatches x ip domain (Text.trimDots host) = s at hfound hqueries
    generalize addressMatches y ip domain (Text.trimDots host) = t at hfound hqueries
    obtain ⟨found, log⟩ := s
    obtain ⟨found', log'⟩ := t
    obtain rfl : found = found' := hfound
    dsimp only
    split
    · exact ih
    · cases found with
      | true => exact hqueries
      | false =>
        simp only [Bool.false_eq_true, if_false, Log.queries_append, ih]
        exact congrArg (· ++ _) hqueries

theorem mxMatches_queries_excused (name : String) :
    (mxMatches x ip domain name).2.queries = (mxMatches y ip domain name).2.queries := by
  have hmx := h.mx name
  unfold mxMatches
  generalize x.mx name = s at hmx
  generalize y.mx name = t at hmx
  dsimp only
  split
  · rfl
  · cases hmx with
    | kept =>
      split
      · rfl
      · simp only [Log.queries_asked, Log.queries_noted, hostsMatch_queries_excused h ip domain]
    | excused fault => rfl

theorem directTest_excused (m : Mechanism) :
    (directTest x ip domain m).1 = (directTest y ip domain m).1 :=
  directTest_eq_of_iff (hasAddress_excused h ip) (hasExchanger_excused h ip) m

theorem directTest_queries_excused (m : Mechanism) :
    (directTest x ip domain m).2.queries = (directTest y ip domain m).2.queries := by
  cases m with
  | a target => exact (addressMatches_queries ..).trans (addressMatches_queries ..).symm
  | mx target => exact mxMatches_queries_excused h ip domain _
  | _ => rfl

end Lookups

/-! ## Records -/

section Records

variable {x y : Dns.Resolver} {ip : Ip.Address} {visit visit' : String → Step}

theorem fallThrough_excused (hvisit : ∀ target, ExcusedStep x y (visit target) (visit' target))
    (domain record : String) (redirect : Option String) :
    ExcusedStep x y (fallThrough visit domain record redirect)
      (fallThrough visit' domain record redirect) := by
  cases redirect with
  | none => exact ⟨.same _, rfl⟩
  | some target =>
    by_cases htarget : target = ""
    · subst htarget
      exact ⟨.same _, rfl⟩
    · rw [fallThrough_of_redirect _ _ _ htarget, fallThrough_of_redirect _ _ _ htarget]
      exact ⟨(hvisit target).verdict.redirected target, (hvisit target).queries⟩

/-- A failure below an `include`, in an `a` or in an `mx` is no match, and the scan goes on: only
the verdict of a redirect can tell the tables apart. -/
theorem scan_excused (h : Excuses x y)
    (hvisit : ∀ target, ExcusedStep x y (visit target) (visit' target))
    (domain record : String) (redirect : Option String) (tokens : List (List Char)) :
    ExcusedStep x y (scan x ip visit domain record redirect tokens)
      (scan y ip visit' domain record redirect tokens) := by
  induction tokens generalizing redirect with
  | nil => exact fallThrough_excused hvisit domain record redirect
  | cons token tokens ih =>
    have hverdict : (attempt x ip visit domain record token).1 =
        (attempt y ip visit' domain record token).1 :=
      attempt_verdict_congr (fun _ m _ => directTest_excused h ip domain m)
        (fun target => (hvisit target).verdict.hitLimit_eq)
        (fun target => (hvisit target).verdict.pass_iff)
    have hqueries : (attempt x ip visit domain record token).2.queries =
        (attempt y ip visit' domain record token).2.queries := by
      rw [attempt_queries, attempt_queries]
      exact queriesOf_congr (directTest_queries_excused h ip domain)
        (fun target => (hvisit target).queries) _
    rw [scan, scan]
    generalize attempt x ip visit domain record token = s at hverdict hqueries
    generalize attempt y ip visit' domain record token = t at hverdict hqueries
    obtain ⟨verdict, log⟩ := s
    obtain ⟨verdict', log'⟩ := t
    obtain rfl : verdict = verdict' := hverdict
    cases verdict with
    | some v => exact ⟨.same v, hqueries⟩
    | none =>
      have hrest := ih ((Term.ofChars token).redirect?.or redirect)
      refine ⟨hrest.verdict, ?_⟩
      rw [Log.queries_append, Log.queries_append, hrest.queries]
      exact congrArg (· ++ _) hqueries

theorem checkRecord_excused (h : Excuses x y)
    (hvisit : ∀ target, ExcusedStep x y (visit target) (visit' target)) (domain text : String) :
    ExcusedStep x y (checkRecord x ip visit domain text) (checkRecord y ip visit' domain text) := by
  by_cases htext : IsPolicy text
  · rw [checkRecord_of_isPolicy htext, checkRecord_of_isPolicy htext]
    exact scan_excused h hvisit domain _ _ _
  · rw [checkRecord_of_not_isPolicy htext, checkRecord_of_not_isPolicy htext]
    exact ⟨.same _, rfl⟩

end Records

/-! ## Domains -/

/-- At every level the two evaluations go the same way. -/
theorem checkDomain_excused {x y : Dns.Resolver} (h : Excuses x y) (ip : Ip.Address)
    (levels : Nat) (domain : String) :
    ExcusedStep x y (checkDomain x ip levels domain) (checkDomain y ip levels domain) := by
  induction levels generalizing domain with
  | zero => exact ⟨.same _, rfl⟩
  | succ levels ih =>
    have htxt := h.txt domain
    unfold checkDomain
    dsimp only
    generalize hx : x.txt domain = s at htxt
    generalize hy : y.txt domain = t at htxt
    cases htxt with
    | excused fault => exact ⟨.excused rfl rfl hx hy, rfl⟩
    | kept =>
      cases s with
      | error fault => exact ⟨.same _, rfl⟩
      | ok texts =>
        dsimp only
        split
        · exact ⟨.same _, rfl⟩
        · next record _ =>
          have hrecord : ExcusedStep x y
              (checkRecord x ip (checkDomain x ip levels) domain record)
              (checkRecord y ip (checkDomain y ip levels) domain record) :=
            checkRecord_excused h ih domain record
          refine ⟨hrecord.verdict, ?_⟩
          simp only [List.cons_append, Log.queries_asked, Log.queries_noted, Log.queries_append,
            Log.queries_nil, hrecord.queries]
        · exact ⟨.same _, rfl⟩

/-! ## Evaluations -/

theorem ExcusedVerdict.eq_of_txt_eq {x y : Dns.Resolver} {v w : Verdict}
    (h : ExcusedVerdict x y v w) (htxt : ∀ name, y.txt name = x.txt name) : w = v := by
  cases h with
  | same => rfl
  | excused _ _ hx hy =>
    rw [htxt, hx] at hy
    cases hy

/-- Where the second evaluation has no temporary error, it has the excused verdict of the first. -/
theorem ExcusedVerdict.eq_excused {x y : Dns.Resolver} {v w : Verdict}
    (h : ExcusedVerdict x y v w) (hw : w.raw ≠ .tempError) : w = v.excused := by
  cases h with
  | same => rw [Verdict.excused, if_neg hw]
  | excused hraw => rw [Verdict.excused, if_pos hraw]

theorem excuseAll_txt_ne_error (dns : Dns.Resolver) (name : String) (fault : Dns.Fault) :
    dns.excuseAll.txt name ≠ .error fault := by
  have htxt : dns.excuseAll.txt name = Dns.orEmpty (dns.txt name) := rfl
  rw [htxt]
  cases dns.txt name with
  | error _ => exact fun h => by cases h
  | ok texts => exact fun h => by cases h

theorem raw_evaluate_excuseAll_ne (dns : Dns.Resolver) (domain : String) (ip : Ip.Address) :
    (evaluate dns.excuseAll domain ip).verdict.raw ≠ .tempError := by
  intro hraw
  have hsourced := checkDomain_sourced dns.excuseAll ip maxDepth (normalizeDomain domain)
  obtain ⟨fault, -, htxt⟩ := hsourced.lookup hraw
  exact excuseAll_txt_ne_error dns _ fault htxt

/-- Failed queries for addresses and exchangers count as empty answers, and so do failed queries
for text records unless one of them ends the redirects.  Then, and only then, the result is a
temporary error, which tells why the last query failed; with an empty answer to that query there
would be no policy and no error.  The queries are the same in every case, and the outcome and the
text of the error are read off the verdict. -/
theorem failures_absorbed (dns : Dns.Resolver) (domain : String) (ip : Ip.Address) :
    let e := evaluate dns domain ip
    ((evaluate dns.excuseHosts domain ip).verdict = e.verdict ∧
        (evaluate dns.excuseHosts domain ip).queries = e.queries) ∧
      ((evaluate dns.excuseAll domain ip).verdict = e.verdict.excused ∧
        (evaluate dns.excuseAll domain ip).queries = e.queries) ∧
      (e.verdict.raw = .tempError → ∃ fault,
        e.error = some ("DNS TXT lookup failed: " ++ fault.message) ∧
          dns.txt e.verdict.domain = .error fault ∧
          e.queries.getLast? = some (.txt e.verdict.domain)) ∧
      e.verdict.domain = e.verdict.redirectChain.getLast?.getD (normalizeDomain domain) := by
  have hhosts := checkDomain_excused (excuses_excuseHosts dns) ip maxDepth (normalizeDomain domain)
  have hall := checkDomain_excused (excuses_excuseAll dns) ip maxDepth (normalizeDomain domain)
  have hsourced := checkDomain_sourced dns ip maxDepth (normalizeDomain domain)
  refine ⟨⟨?_, hhosts.queries.symm⟩, ⟨?_, hall.queries.symm⟩, ?_, hsourced.domain_eq⟩
  · exact hhosts.verdict.eq_of_txt_eq fun _ => rfl
  · exact hall.verdict.eq_excused (raw_evaluate_excuseAll_ne dns domain ip)
  · intro hraw
    obtain ⟨fault, hfault, htxt⟩ := hsourced.lookup hraw
    refine ⟨fault, ?_, htxt, hsourced.last hraw⟩
    exact congrArg (Option.map Fault.message) hfault

/-- Answers in which nothing but the policy of one domain can be looked up. -/
def failingZone : Dns.Resolver where
  txt
    | "example.test" => .ok ["v=spf1 a mx include:broken.test redirect=next.test"]
    | _ => .error .timeout
  address _ _ := .error .serverFailure
  mx _ := .error .serverFailure

/-- Of the four failures only the one at the end of the redirect surfaces. -/
theorem failures_absorbed_failingZone :
    let e := evaluate failingZone "example.test" (.v4 ⟨192, 0, 2, 1⟩)
    e.verdict.raw = .tempError ∧
      e.queries = [.txt "example.test", .address .v4 "example.test", .mx "example.test",
        .txt "broken.test", .txt "next.test"] ∧
      (evaluate failingZone.excuseHosts "example.test" (.v4 ⟨192, 0, 2, 1⟩)).verdict = e.verdict ∧
      (evaluate failingZone.excuseAll "example.test" (.v4 ⟨192, 0, 2, 1⟩)).verdict =
        ⟨"next.test", .none, none, ["next.test"], none⟩ ∧
      ∃ fault, e.error = some ("DNS TXT lookup failed: " ++ fault.message) ∧
        failingZone.txt e.verdict.domain = .error fault := by
  intro e
  obtain ⟨⟨hhosts, -⟩, ⟨hall, -⟩, hsource, -⟩ :=
    failures_absorbed failingZone "example.test" (.v4 ⟨192, 0, 2, 1⟩)
  have hraw : e.verdict.raw = .tempError := by decide +kernel
  have hexcused : e.verdict.excused = ⟨"next.test", .none, none, ["next.test"], none⟩ := by
    decide +kernel
  obtain ⟨fault, herror, htxt, -⟩ := hsource hraw
  exact ⟨hraw, by decide +kernel, hhosts, hall.trans hexcused, fault, herror, htxt⟩

end SpamVerdict.Spf
