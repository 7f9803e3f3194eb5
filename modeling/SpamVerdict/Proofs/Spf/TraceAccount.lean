import SpamVerdict.Proofs.Spf.SharedTrace
import SpamVerdict.Proofs.Spf.Limit
set_option autoImplicit false

/-!
# The trace accounts for every query (SPEC_FULL §4.3)

Right behind every query of an evaluation stands a trace line, so there are at least as many lines
as queries (`Log.Accounted`).  The log of a domain that the evaluation enters stands in one piece
in the log of the domain from which it was entered, at any depth (`log_infix_of_enters`).  Both
hold of the evaluation that writes one list at all levels as well, wherever that list starts
(`trace_accounts_for_queries`).

SPEC_FULL §4.3 closes with what the trace must have a line for: every domain, every hop and every
record that is fetched.
-/

namespace SpamVerdict.Spf

/-! ## Accounted logs -/

/-- Right behind every query of the log stands a trace line. -/
inductive Log.Accounted : Log → Prop where
  | nil : Accounted []
  | line {event : Event} {log : Log} (hevent : event.query? = none) (hlog : Accounted log) :
      Accounted (event :: log)
  | query (query : Dns.Query) (line : String) {log : Log} (hlog : Accounted log) :
      Accounted (.asked query :: .noted line :: log)

namespace Log.Accounted

variable {log rest : Log}

theorem noted (line : String) (hlog : Accounted log) : Accounted (.noted line :: log) :=
  .line rfl hlog

theorem append (hlog : Accounted log) (hrest : Accounted rest) : Accounted (log ++ rest) := by
  induction hlog with
  | nil => exact hrest
  | line hevent _ ih => exact .line hevent ih
  | query query line _ ih => exact .query query line ih

/-- A query in the log is followed by a line at once. -/
theorem exists_line (h : Accounted log) {before after : Log} {query : Dns.Query}
    (hlog : log = before ++ .asked query :: after) :
    ∃ line rest, after = .noted line :: rest := by
  induction h generalizing before with
  | nil => cases before <;> cases hlog
  | line hevent _ ih =>
    cases before with
    | nil => cases hlog; cases hevent
    | cons first before => exact ih (List.cons.inj hlog).2
  | query asked line _ ih =>
    rcases before with _ | ⟨first, _ | ⟨second, before⟩⟩
    · cases hlog
      exact ⟨line, _, rfl⟩
    · cases hlog
    · exact ih (List.cons.inj (List.cons.inj hlog).2).2

theorem length_queries_le (h : Accounted log) : log.queries.length ≤ log.trace.length := by
  induction h with
  | nil => exact Nat.le_refl 0
  | @line event log hevent _ ih =>
    cases event with
    | asked query => cases hevent
    | noted line => exact Nat.le_succ_of_le ih
    | stopped domain => exact Nat.le_succ_of_le ih
  | query query line _ ih => exact Nat.succ_le_succ ih

end Log.Accounted

/-! ## Every exit leaves its line -/

section Mechanisms

variable (dns : Dns.Resolver) (ip : Ip.Address) (domain : String)

theorem addressMatches_accounted (name : String) :
    (addressMatches dns ip domain name).2.Accounted := by
  unfold addressMatches
  dsimp only
  split
  · exact .noted _ .nil
  · split
    · exact .query _ _ .nil
    · exact .query _ _ .nil

theorem hostsMatch_accounted (hosts : List String) :
    (hostsMatch dns ip domain hosts).2.Accounted := by
  induction hosts with
  | nil => exact .nil
  | cons host hosts ih =>
    have hhost := addressMatches_accounted dns ip domain (Text.trimDots host)
    unfold hostsMatch
    dsimp only
    split
    · exact ih
    · split
      · exact hhost
      · exact hhost.append ih

theorem mxMatches_accounted (name : String) : (mxMatches dns ip domain name).2.Accounted := by
  unfold mxMatches
  dsimp only
  split
  · exact .noted _ .nil
  · split
    · exact .query _ _ .nil
    · exact .query _ _ (hostsMatch_accounted dns ip domain _)

theorem directTest_accounted (m : Mechanism) : (directTest dns ip domain m).2.Accounted := by
  cases m with
  | a target => exact addressMatches_accounted dns ip domain _
  | mx target => exact mxMatches_accounted dns ip domain _
  | _ => exact .nil

end Mechanisms

section Records

variable {dns : Dns.Resolver} {ip : Ip.Address} {visit : String → Step} {domain record : String}
  (hvisit : ∀ target, (visit target).2.Accounted)

include hvisit

theorem attempt_accounted (token : List Char) :
    (attempt dns ip visit domain record token).2.Accounted := by
  obtain ⟨term, hterm, hkind⟩ := exists_kind token
  cases hkind with
  | redirect target =>
    rw [attempt_of_redirect hterm]
    exact .nil
  | unsupported body =>
    rw [attempt_of_unsupported hterm]
    exact .noted _ .nil
  | emptyInclude q =>
    rw [attempt_of_emptyInclude hterm]
    exact .nil
  | @includes q target htarget =>
    have hlog := (hvisit target).noted ("domain=" ++ domain ++ " include=" ++ target)
    simp only [attempt_of_includes hterm htarget]
    split
    · exact hlog
    · split
      · exact hlog.append (.noted _ .nil)
      · exact hlog
  | @direct q m hm =>
    have hlog := directTest_accounted dns ip domain m
    rw [attempt_of_direct hterm hm]
    split
    · exact hlog.append (.noted _ .nil)
    · exact hlog

theorem fallThrough_accounted (redirect : Option String) :
    (fallThrough visit domain record redirect).2.Accounted := by
  cases redirect with
  | none => exact .nil
  | some target =>
    unfold fallThrough
    dsimp only
    split
    · exact .nil
    · exact (hvisit target).noted _

theorem scan_accounted (redirect : Option String) (tokens : List (List Char)) :
    (scan dns ip visit domain record redirect tokens).2.Accounted := by
  induction tokens generalizing redirect with
  | nil => exact fallThrough_accounted hvisit redirect
  | cons token tokens ih =>
    have htoken : (attempt dns ip visit domain record token).2.Accounted :=
      attempt_accounted hvisit token
    rw [scan]
    cases hattempt : attempt dns ip visit domain record token with
    | mk verdict log =>
      rw [hattempt] at htoken
      cases verdict with
      | some v => exact htoken
      | none => exact htoken.append (ih _)

theorem checkRecord_accounted (text : String) :
    (checkRecord dns ip visit domain text).2.Accounted := by
  unfold checkRecord
  dsimp only
  split
  · exact scan_accounted hvisit _ _
  · exact .nil

end Records

theorem checkDomain_accounted (dns : Dns.Resolver) (ip : Ip.Address) (levels : Nat)
    (domain : String) : (checkDomain dns ip levels domain).2.Accounted := by
  induction levels generalizing domain with
  | zero => exact .line rfl .nil
  | succ levels ih =>
    unfold checkDomain
    dsimp only
    split
    · exact .query _ _ .nil
    · split
      · exact .query _ _ .nil
      · exact Log.Accounted.append (.query _ _ (checkRecord_accounted ih _)) (.noted _ .nil)
      · exact .query _ _ .nil

/-! ## Nested evaluations -/

section Nesting

variable {dns : Dns.Resolver} {ip : Ip.Address} {visit : String → Step} {domain record : String}

/-- The log of a token that is tried stands in one piece in the log of its record. -/
theorem attempt_log_in_scan {before after : List (List Char)} {token : List Char}
    {redirect : Option String}
    (hbefore : ∀ t ∈ before, (attempt dns ip visit domain record t).1 = none) :
    (attempt dns ip visit domain record token).2 <:+:
      (scan dns ip visit domain record redirect (before ++ token :: after)).2 := by
  induction before generalizing redirect with
  | nil =>
    rw [List.nil_append, scan]
    cases hattempt : attempt dns ip visit domain record token with
    | mk verdict log =>
      cases verdict with
      | some v => exact List.infix_rfl
      | none => exact (List.prefix_append log _).isInfix
  | cons t before ih =>
    rw [List.cons_append, scan]
    cases hattempt : attempt dns ip visit domain record t with
    | mk verdict log =>
      obtain rfl : verdict = none := by simpa [hattempt] using hbefore t List.mem_cons_self
      have hrest : ∀ t ∈ before, (attempt dns ip visit domain record t).1 = none :=
        fun t ht => hbefore t (List.mem_cons_of_mem _ ht)
      exact (ih hrest).trans (List.suffix_append log _).isInfix

/-- The log of a domain to which a record leads stands in one piece in the log of the record. -/
theorem log_infix_of_leadsTo {next : String} (hvisit : NoPassAtLimit visit)
    (hnext : LeadsTo dns ip (GivenBy visit) domain record next) :
    (visit next).2 <:+: (scan dns ip visit domain record none (tokensOf record.toList)).2 := by
  cases hnext with
  | @includes before after q _ hterms hbefore htarget =>
    obtain ⟨front, back, htokens, rfl, hback⟩ := List.map_eq_append_iff.1 hterms
    obtain ⟨token, behind, rfl, hterm, -⟩ := List.map_eq_cons_iff.1 hback
    have hopen := (undecided_iff hvisit).1 hbefore
    have hlog : (visit next).2 <:+: (attempt dns ip visit domain record token).2 := by
      have hline := (List.suffix_cons
        (Event.noted ("domain=" ++ domain ++ " include=" ++ next)) (visit next).2).isInfix
      simp only [attempt_of_includes hterm htarget]
      split
      · exact hline
      · split
        · exact hline.trans (List.prefix_append _ _).isInfix
        · exact hline
    rw [htokens]
    exact hlog.trans (attempt_log_in_scan hopen)
  | redirect hterms hredirect htarget =>
    have hopen := (undecided_iff hvisit).1 hterms
    rw [scan_open hopen, ← termsOf, hredirect, Option.some_or,
      fallThrough_of_redirect _ _ _ htarget]
    exact ((List.suffix_cons _ _).trans (List.suffix_append _ _)).isInfix

/-- The log of a domain that is entered stands in one piece in the log of the first domain. -/
theorem log_infix_of_enters {depth last : Nat} {target : String}
    (h : Enters dns ip depth domain last target) :
    (checkDomain dns ip (maxDepth - last) target).2 <:+:
      (checkDomain dns ip (maxDepth - depth) domain).2 := by
  induction h with
  | here depth domain => exact List.infix_rfl
  | @hop depth last domain text next target hdepth htext hnext hrest ih =>
    obtain ⟨levels, hlevels⟩ : ∃ levels, maxDepth - depth = levels + 1 :=
      ⟨maxDepth - (depth + 1), by omega⟩
    have hnextLevels : maxDepth - (depth + 1) = levels := by omega
    rw [judged_eq_givenBy, hnextLevels] at hnext
    rw [hnextLevels] at ih
    have hrecord := log_infix_of_leadsTo (noPassAtLimit_checkDomain dns ip levels) hnext
    rw [hlevels]
    simp only [checkDomain_of_publishes htext]
    refine (ih.trans hrecord).trans ?_
    exact ((List.suffix_append [_, _] _).isInfix).trans (List.prefix_append _ _).isInfix

end Nesting

/-! ## Evaluations -/

/-- The trace of an evaluation accounts for what happens in it: behind every query stands a line,
the lines of the steps nested in it stand in one piece, and the evaluation that appends its lines
to one list gives the same verdict and appends this trace, whatever the list holds. -/
structure Evaluation.Accounts (e : Evaluation) (nested : Step → Prop) (shared : Tracing Verdict) :
    Prop where
  noted : ∀ before query after, e.log = before ++ .asked query :: after →
    ∃ line rest, after = .noted line :: rest
  bound : e.queries.length ≤ e.trace.length
  nested : ∀ step, nested step → step.2.trace <:+: e.trace
  appended : ∀ lines, shared.run lines = (e.verdict, lines ++ e.trace)

theorem Evaluation.accounts_of_accounted {step : Step} {nested : Step → Prop}
    {shared : Tracing Verdict} (hlog : step.2.Accounted)
    (hnested : ∀ inner, nested inner → inner.2 <:+: step.2) (hshared : shared.Writes step) :
    Accounts ⟨step.1, step.2⟩ nested shared where
  noted _ _ _ hsplit := hlog.exists_line hsplit
  bound := hlog.length_queries_le
  nested inner hinner := (hnested inner hinner).filterMap Event.line?
  appended := hshared

/-- A step for a domain that is entered from another one. -/
def EnteredFrom (dns : Dns.Resolver) (ip : Ip.Address) (depth : Nat) (domain : String)
    (step : Step) : Prop :=
  ∃ last target, Enters dns ip depth domain last target ∧
    step = checkDomain dns ip (maxDepth - last) target

theorem checkDomain_accounts (dns : Dns.Resolver) (ip : Ip.Address) (depth : Nat)
    (domain : String) :
    Evaluation.Accounts ⟨(checkDomain dns ip (maxDepth - depth) domain).1,
        (checkDomain dns ip (maxDepth - depth) domain).2⟩
      (EnteredFrom dns ip depth domain) (Tracing.checkDomain dns ip (maxDepth - depth) domain) := by
  refine Evaluation.accounts_of_accounted (checkDomain_accounted dns ip _ domain) ?_
    (Tracing.writes_checkDomain dns ip _ domain)
  rintro _ ⟨last, target, htarget, rfl⟩
  exact log_infix_of_enters htarget

theorem evaluateRecord_accounts (dns : Dns.Resolver) (ip : Ip.Address) (domain text : String) :
    (evaluateRecord dns domain ip text).Accounts
      (fun step => IsPolicy text ∧ ∃ next,
        LeadsTo dns ip (Judged dns ip 1) (normalizeDomain domain) (Text.trim text) next ∧
          EnteredFrom dns ip 1 next step)
      (Tracing.checkRecord dns ip (Tracing.checkDomain dns ip (maxDepth - 1))
        (normalizeDomain domain) text) := by
  rw [evaluateRecord_eq, judged_eq_givenBy]
  refine Evaluation.accounts_of_accounted
    (checkRecord_accounted (checkDomain_accounted dns ip (maxDepth - 1)) text) ?_
    (Tracing.writes_checkRecord dns ip _ (Tracing.writes_checkDomain dns ip (maxDepth - 1)) text)
  rintro _ ⟨htext, next, hnext, last, target, htarget, rfl⟩
  rw [checkRecord_of_isPolicy htext]
  exact (log_infix_of_enters htarget).trans
    (log_infix_of_leadsTo (noPassAtLimit_checkDomain dns ip (maxDepth - 1)) hnext)

/-- The trace of every evaluation accounts for its queries and holds the traces of the domains that
are entered in it in one piece, and so does the trace of each of these domains, at any depth. -/
theorem trace_accounts_for_queries (dns : Dns.Resolver) (ip : Ip.Address) (domain text : String) :
    (evaluate dns domain ip).Accounts (EnteredFrom dns ip 0 (normalizeDomain domain))
        (Tracing.checkDomain dns ip maxDepth (normalizeDomain domain)) ∧
      (evaluateRecord dns domain ip text).Accounts
        (fun step => IsPolicy text ∧ ∃ next,
          LeadsTo dns ip (Judged dns ip 1) (normalizeDomain domain) (Text.trim text) next ∧
            EnteredFrom dns ip 1 next step)
        (Tracing.checkRecord dns ip (Tracing.checkDomain dns ip (maxDepth - 1))
          (normalizeDomain domain) text) ∧
      ∀ depth target,
        Evaluation.Accounts ⟨(checkDomain dns ip (maxDepth - depth) target).1,
            (checkDomain dns ip (maxDepth - depth) target).2⟩
          (EnteredFrom dns ip depth target)
          (Tracing.checkDomain dns ip (maxDepth - depth) target) :=
  ⟨checkDomain_accounts dns ip 0 _, evaluateRecord_accounts dns ip domain text,
    checkDomain_accounts dns ip⟩

/-- Answers in which a policy includes another one, which asks for addresses. -/
def errandZone : Dns.Resolver where
  txt
    | "start.test" => .ok ["v=spf1 include:mid.test mx -all"]
    | "mid.test" => .ok ["v=spf1 a -all"]
    | _ => .error .timeout
  address _ _ := .ok []
  mx _ := .error .timeout

/-- The lines of the inner policy stand in one piece between those of the outer one, and behind a
line that was there before. -/
theorem trace_accounts_for_queries_errandZone :
    let ip := Ip.Address.v4 ⟨192, 0, 2, 1⟩
    let e := evaluate errandZone "Start.test" ip
    let inner := (checkDomain errandZone ip 7 "mid.test").2.trace
    inner = ["domain=mid.test spf_record=v=spf1 a -all",
        "domain=mid.test a=mid.test addresses= match=false",
        "domain=mid.test matched=-all qualifier=- raw=fail",
        "domain=mid.test raw=fail result=fail"] ∧
      inner <:+: e.trace ∧ e.queries.length = 4 ∧ e.queries.length ≤ e.trace.length ∧
      (Tracing.checkDomain errandZone ip maxDepth "start.test").run ["before"] =
        (e.verdict, "before" :: e.trace) := by
  intro ip e inner
  have hpublishes : Publishes errandZone "start.test" "v=spf1 include:mid.test mx -all" := by
    have hnone : ∀ t ∈ ([] : List String), ¬ IsPolicy t := fun _ ht => nomatch ht
    exact ⟨(isRecord_trim_iff _).1 (by decide), [], [], rfl, hnone, hnone⟩
  have hterms : termsOf (Text.trim "v=spf1 include:mid.test mx -all") =
      [] ++ .directive .pass (.includes "mid.test") ::
        [.directive .pass (.mx none), .directive .fail .all] := by decide
  have hleads : LeadsTo errandZone ip (Judged errandZone ip 1) "start.test"
      (Text.trim "v=spf1 include:mid.test mx -all") "mid.test" :=
    .includes hterms (fun _ ht => nomatch ht) (by decide)
  have henters : Enters errandZone ip 0 "start.test" 1 "mid.test" :=
    .hop (by decide) hpublishes hleads (.here 1 "mid.test")
  have hdomain : normalizeDomain "Start.test" = "start.test" := by decide
  have haccounts := (trace_accounts_for_queries errandZone ip "Start.test" "").1
  rw [hdomain] at haccounts
  exact ⟨by decide, haccounts.nested _ ⟨1, "mid.test", henters, rfl⟩, by decide,
    haccounts.bound, haccounts.appended ["before"]⟩

end SpamVerdict.Spf
