import SpamVerdict.Proofs.Spf.Rules
set_option autoImplicit false

/-!
# The recursion limit (SPEC_FULL §3, §4.3, §14.11)

`Enters` says which domains an evaluation enters and how deep: each hop follows an `include` that
is reached or the redirect of a record that decides nothing.  An evaluation ends with the error of
the recursion limit exactly when some domain is entered at the last depth, by whatever mixture of
hops; the error then goes up through every record above, and no query follows it
(`limit_iff_entered`).

This is the invariant of SPEC_FULL §3, that going too deep is an invalid result and never an endless
loop, with the propagation of §14.11, in both directions.
-/

namespace SpamVerdict.Spf

/-! ## Hops -/

/-- A record leads the evaluation on to another domain. -/
inductive LeadsTo (dns : Dns.Resolver) (ip : Ip.Address) (judged : String → Verdict → Prop)
    (domain record : String) : String → Prop where
  /-- An `include` is reached: no term before it is decisive. -/
  | includes {before after : List Term} {q : Qualifier} {target : String}
      (hterms : termsOf record = before ++ .directive q (.includes target) :: after)
      (hbefore : Undecided dns ip judged domain record before) (htarget : target ≠ "") :
      LeadsTo dns ip judged domain record target
  /-- No term is decisive, and the last redirect is followed. -/
  | redirect {target : String}
      (hterms : Undecided dns ip judged domain record (termsOf record))
      (hredirect : lastRedirect (termsOf record) = some target) (htarget : target ≠ "") :
      LeadsTo dns ip judged domain record target

/-- The evaluation of a domain that is entered at some depth enters a target at another. -/
inductive Enters (dns : Dns.Resolver) (ip : Ip.Address) : Nat → String → Nat → String → Prop where
  | here (depth : Nat) (domain : String) : Enters dns ip depth domain depth domain
  | hop {depth last : Nat} {domain text next target : String} (hdepth : depth < maxDepth)
      (htext : Publishes dns domain text)
      (hnext : LeadsTo dns ip (Judged dns ip (depth + 1)) domain (Text.trim text) next)
      (hrest : Enters dns ip (depth + 1) next last target) :
      Enters dns ip depth domain last target

/-! ## The verdict of the limit -/

section Verdicts

variable {dns : Dns.Resolver} {ip : Ip.Address} {visit : String → Step} {domain record : String}

/-- The limit is passed on by every record that leads to a domain which hits it. -/
theorem hitLimit_of_leadsTo {next : String} (hvisit : NoPassAtLimit visit)
    (hnext : LeadsTo dns ip (GivenBy visit) domain record next)
    (hlimit : (visit next).1.hitLimit = true) :
    (scan dns ip visit domain record none (tokensOf record.toList)).1.hitLimit = true := by
  cases hnext with
  | @includes before after q _ hterms hbefore htarget =>
    have hv := RecordJudged.decided hterms hbefore (.limit htarget rfl hlimit)
    rw [← (recordJudged_iff hvisit).1 hv]
    rfl
  | redirect hterms hredirect htarget =>
    have hv := RecordJudged.redirected hterms hredirect htarget rfl
    rw [← (recordJudged_iff hvisit).1 hv]
    exact hlimit

/-- A domain from which the last depth is entered hits the limit. -/
theorem hitLimit_of_enters {depth last : Nat} {target : String}
    (h : Enters dns ip depth domain last target) (hlast : last = maxDepth) :
    (checkDomain dns ip (maxDepth - depth) domain).1.hitLimit = true := by
  induction h with
  | here depth domain =>
    rw [hlast, Nat.sub_self]
    rfl
  | @hop depth last domain text next target hdepth htext hnext hrest ih =>
    obtain ⟨levels, hlevels⟩ : ∃ levels, maxDepth - depth = levels + 1 :=
      ⟨maxDepth - (depth + 1), by omega⟩
    have hnextLevels : maxDepth - (depth + 1) = levels := by omega
    rw [judged_eq_givenBy, hnextLevels] at hnext
    rw [hlevels]
    simp only [checkDomain_of_publishes htext]
    refine hitLimit_of_leadsTo (noPassAtLimit_checkDomain dns ip levels) hnext ?_
    rw [← hnextLevels]
    exact ih hlast

end Verdicts

/-! ## The log of the limit -/

/-- Nothing in the log was stopped by the limit. -/
def Log.Free (log : Log) : Prop :=
  ∀ domain, .stopped domain ∉ log

/-- The log holds trace lines only. -/
def Log.Silent (log : Log) : Prop :=
  ∀ event ∈ log, ∃ line, event = .noted line

/-- A step ends at the recursion limit, in front of a domain of which `entered` holds and with
nothing but trace lines after that, or it never meets the limit. -/
inductive Stops (entered : String → Prop) : Step → Prop where
  | limit {v : Verdict} {before after : Log} {target : String} (hv : v.hitLimit = true)
      (hbefore : before.Free) (htarget : entered target) (hafter : after.Silent) :
      Stops entered (v, before ++ .stopped target :: after)
  | free {v : Verdict} {log : Log} (hv : v.hitLimit = false) (hlog : log.Free) :
      Stops entered (v, log)

theorem Log.free_append {log rest : Log} (hlog : log.Free) (hrest : rest.Free) :
    Free (log ++ rest) := by
  intro domain hmem
  rcases List.mem_append.1 hmem with h | h
  · exact hlog domain h
  · exact hrest domain h

theorem Log.Silent.free {log : Log} (h : log.Silent) : log.Free := by
  intro domain hmem
  obtain ⟨line, hline⟩ := h _ hmem
  cases hline

theorem Log.Silent.queries_eq_nil {log : Log} (h : log.Silent) : log.queries = [] := by
  refine List.filterMap_eq_nil_iff.2 fun event hevent => ?_
  obtain ⟨line, rfl⟩ := h event hevent
  rfl

theorem Log.silent_noted (line : String) : Silent [.noted line] := by
  simp [Silent]

theorem Log.silent_nil : Silent [] := by
  simp [Silent]

namespace Stops

variable {entered entered' : String → Prop} {v v' : Verdict} {log start stop : Log}

theorem mono {step : Step} (h : Stops entered step)
    (hentered : ∀ target, entered target → entered' target) : Stops entered' step := by
  cases h with
  | limit hv hbefore htarget hafter => exact .limit hv hbefore (hentered _ htarget) hafter
  | free hv hlog => exact .free hv hlog

theorem of_hitLimit_eq (h : Stops entered (v, log)) (hv : v'.hitLimit = v.hitLimit) :
    Stops entered (v', log) := by
  cases h with
  | limit hlimit hbefore htarget hafter => exact .limit (hv.trans hlimit) hbefore htarget hafter
  | free hfree hlog => exact .free (hv.trans hfree) hlog

theorem prepend (hstart : start.Free) (h : Stops entered (v, log)) :
    Stops entered (v, start ++ log) := by
  cases h with
  | limit hv hbefore htarget hafter =>
    rw [← List.append_assoc]
    exact .limit hv (Log.free_append hstart hbefore) htarget hafter
  | free hv hlog => exact .free hv (Log.free_append hstart hlog)

theorem append (h : Stops entered (v, log)) (hstop : stop.Silent) :
    Stops entered (v, log ++ stop) := by
  cases h with
  | limit hv hbefore htarget hafter =>
    rw [List.append_assoc, List.cons_append]
    refine .limit hv hbefore htarget fun event hevent => ?_
    exact (List.mem_append.1 hevent).elim (hafter event) (hstop event)
  | free hv hlog => exact .free hv (Log.free_append hlog hstop.free)

/-- A step whose verdict is another one never met the limit. -/
theorem log_free (h : Stops entered (v, log)) (hv : v.hitLimit = false) : log.Free := by
  cases h with
  | limit hlimit => simp [hv] at hlimit
  | free _ hlog => exact hlog

end Stops

section Logs

variable {dns : Dns.Resolver} {ip : Ip.Address} {visit : String → Step} {domain record : String}

theorem directTest_free (dns : Dns.Resolver) (ip : Ip.Address) (domain : String)
    (m : Mechanism) : (directTest dns ip domain m).2.Free := by
  intro name hmem
  have hlookup := directTest_ofLookup dns ip domain m _ hmem
  cases hlookup

/-- The log of an attempt, which settles a verdict or not. -/
def AttemptStops (entered : String → Prop) : Option Verdict × Log → Prop
  | (some v, log) => Stops entered (v, log)
  | (none, log) => log.Free

/-- The term is an `include` of a domain below which `entered` holds. -/
def Below (entered : String → String → Prop) (term : Term) (target : String) : Prop :=
  ∃ q next, term = .directive q (.includes next) ∧ next ≠ "" ∧ entered next target

/-- Trying a token meets the limit only below an `include`. -/
theorem attempt_stops {entered : String → String → Prop} (token : List Char)
    (hvisit : ∀ target, Stops (entered target) (visit target)) :
    AttemptStops (Below entered (Term.ofChars token))
      (attempt dns ip visit domain record token) := by
  obtain ⟨term, hterm, hkind⟩ := exists_kind token
  rw [hterm]
  cases hkind with
  | redirect target =>
    rw [attempt_of_redirect hterm]
    exact Log.silent_nil.free
  | unsupported body =>
    rw [attempt_of_unsupported hterm]
    exact .free rfl (Log.silent_noted _).free
  | emptyInclude q =>
    rw [attempt_of_emptyInclude hterm]
    exact .free rfl Log.silent_nil.free
  | @includes q next hnext =>
    have hnote := (Log.silent_noted ("domain=" ++ domain ++ " include=" ++ next)).free
    have hstops : Stops (Below entered (.directive q (.includes next)))
        ((visit next).1, .noted ("domain=" ++ domain ++ " include=" ++ next) :: (visit next).2) :=
      ((hvisit next).mono fun target ht => ⟨q, next, rfl, hnext, ht⟩).prepend hnote
    simp only [attempt_of_includes hterm hnext]
    split
    · next hlimit => exact hstops.of_hitLimit_eq hlimit.symm
    · next hlimit =>
      have hfree := hstops.log_free (by simpa using hlimit)
      split
      · exact .free rfl (Log.free_append hfree (Log.silent_noted _).free)
      · exact hfree
  | @direct q m hm =>
    rw [attempt_of_direct hterm hm]
    have hfree := directTest_free dns ip domain m
    split
    · exact .free rfl (Log.free_append hfree (Log.silent_noted _).free)
    · exact hfree

theorem attempts_free {entered : String → String → Prop} {tokens : List (List Char)}
    (hvisit : ∀ target, Stops (entered target) (visit target))
    (htokens : ∀ t ∈ tokens, (attempt dns ip visit domain record t).1 = none) :
    Log.Free (tokens.flatMap fun t => (attempt dns ip visit domain record t).2) := by
  intro name hmem
  obtain ⟨t, ht, hmem⟩ := List.mem_flatMap.1 hmem
  have hstops : AttemptStops (Below entered (Term.ofChars t))
      (attempt dns ip visit domain record t) := attempt_stops t hvisit
  cases hattempt : attempt dns ip visit domain record t with
  | mk verdict log =>
    obtain rfl : verdict = none := by simpa [hattempt] using htokens t ht
    rw [hattempt] at hstops hmem
    exact hstops name hmem

/-- A record meets the limit only below a domain to which it leads. -/
theorem scan_stops {entered : String → String → Prop} (hpass : NoPassAtLimit visit)
    (hvisit : ∀ target, Stops (entered target) (visit target)) :
    Stops (fun target => ∃ next, LeadsTo dns ip (GivenBy visit) domain record next ∧
        entered next target)
      (scan dns ip visit domain record none (tokensOf record.toList)) := by
  rcases open_or_settled dns ip visit domain record (tokensOf record.toList) with
    hopen | ⟨before, token, after, v, htokens, hbefore, htoken⟩
  · have hterms : Undecided dns ip (GivenBy visit) domain record (termsOf record) :=
      (undecided_iff hpass).2 hopen
    rw [scan_open hopen, ← termsOf, Option.or_none]
    refine Stops.prepend (attempts_free hvisit hopen) ?_
    cases hredirect : lastRedirect (termsOf record) with
    | none => exact .free rfl Log.silent_nil.free
    | some next =>
      by_cases hnext : next = ""
      · subst hnext
        exact .free rfl Log.silent_nil.free
      · have hnote := (Log.silent_noted ("domain=" ++ domain ++ " redirect=" ++ next)).free
        have hstops := ((hvisit next).prepend hnote).mono fun target ht =>
          (⟨next, .redirect hterms hredirect hnext, ht⟩ :
            ∃ next, LeadsTo dns ip (GivenBy visit) domain record next ∧ entered next target)
        rw [fallThrough_of_redirect _ _ _ hnext]
        exact hstops.of_hitLimit_eq rfl
  · have hterms : termsOf record =
        before.map Term.ofChars ++ Term.ofChars token :: after.map Term.ofChars := by
      simp [termsOf, htokens]
    have hstops : AttemptStops (Below entered (Term.ofChars token))
        (attempt dns ip visit domain record token) := attempt_stops token hvisit
    rw [htokens, scan_settled hbefore htoken]
    refine Stops.prepend (attempts_free hvisit hbefore) ?_
    cases hattempt : attempt dns ip visit domain record token with
    | mk verdict log =>
      obtain rfl : verdict = some v := by simpa [hattempt] using htoken
      rw [hattempt] at hstops
      refine Stops.mono hstops fun target ht => ?_
      obtain ⟨q, next, hterm, hnext, ht⟩ := ht
      rw [hterm] at hterms
      exact ⟨next, .includes hterms ((undecided_iff hpass).2 hbefore) hnext, ht⟩

/-- A text that is taken for a record meets the limit only if it is one. -/
theorem checkRecord_stops {entered : String → String → Prop} (hpass : NoPassAtLimit visit)
    (hvisit : ∀ target, Stops (entered target) (visit target)) (text : String) :
    Stops (fun target => IsPolicy text ∧
        ∃ next, LeadsTo dns ip (GivenBy visit) domain (Text.trim text) next ∧ entered next target)
      (checkRecord dns ip visit domain text) := by
  by_cases htext : IsPolicy text
  · rw [checkRecord_of_isPolicy htext]
    exact (scan_stops hpass hvisit).mono fun target ht => ⟨htext, ht⟩
  · rw [checkRecord_of_not_isPolicy htext]
    exact .free rfl Log.silent_nil.free

end Logs

theorem checkDomain_stops (dns : Dns.Resolver) (ip : Ip.Address) {depth : Nat}
    (hdepth : depth ≤ maxDepth) (domain : String) :
    Stops (Enters dns ip depth domain maxDepth) (checkDomain dns ip (maxDepth - depth) domain) := by
  induction hlevels : maxDepth - depth generalizing depth domain with
  | zero =>
    obtain rfl : depth = maxDepth := by omega
    have hstopped : Stops (Enters dns ip maxDepth domain maxDepth)
        (.faulty domain .permError none .recursionLimit, [] ++ .stopped domain :: []) :=
      .limit rfl Log.silent_nil.free (.here maxDepth domain) Log.silent_nil
    exact hstopped
  | succ levels ih =>
    have hlt : depth < maxDepth := by omega
    have hnextLevels : maxDepth - (depth + 1) = levels := by omega
    by_cases hpublishes : ∃ text, Publishes dns domain text
    · obtain ⟨text, htext⟩ := hpublishes
      have hvisit : ∀ target, Stops (Enters dns ip (depth + 1) target maxDepth)
          (checkDomain dns ip levels target) := fun target => ih hlt target hnextLevels
      have hscan : Stops (Enters dns ip depth domain maxDepth)
          (scan dns ip (checkDomain dns ip levels) domain (Text.trim text) none
            (tokensOf (Text.trim text).toList)) := by
        refine (scan_stops (noPassAtLimit_checkDomain dns ip levels) hvisit).mono ?_
        rintro target ⟨next, hnext, htarget⟩
        rw [← hnextLevels, ← judged_eq_givenBy] at hnext
        exact .hop hlt htext hnext htarget
      have hnote : Log.Free [.asked (.txt domain),
          .noted ("domain=" ++ domain ++ " spf_record=" ++ Text.trim text)] := by
        simp [Log.Free]
      simp only [checkDomain_of_publishes htext]
      -- What the scan returns is named, lest it is evaluated when logs are compared.
      generalize scan dns ip (checkDomain dns ip levels) domain (Text.trim text) none
        (tokensOf (Text.trim text).toList) = step at hscan
      exact (hscan.prepend hnote).append (Log.silent_noted (summary step.1))
    · obtain ⟨v, line, hstep, hv⟩ :=
        checkDomain_of_not_publishes ip levels (not_exists.1 hpublishes)
      rw [hstep]
      refine .free ?_ (by simp [Log.Free])
      rcases hv with ⟨_, _, rfl⟩ | ⟨_, _, _, rfl⟩ | ⟨_, _, _, rfl⟩ <;> rfl

/-! ## Evaluations -/

theorem Fault.message_eq_limit_iff {fault : Fault} :
    fault.message = "SPF recursion limit exceeded" ↔ fault = .recursionLimit := by
  cases fault with
  | lookupFailed fault =>
    have hne : ("DNS TXT lookup failed: " ++ fault.message).toList ≠
        "SPF recursion limit exceeded".toList := by simp
    exact ⟨fun h => absurd (congrArg String.toList h) hne, fun h => by cases h⟩
  | unsupported term =>
    have hne : ("Unsupported SPF mechanism: " ++ term).toList ≠
        "SPF recursion limit exceeded".toList := by simp
    exact ⟨fun h => absurd (congrArg String.toList h) hne, fun h => by cases h⟩
  | _ => decide

theorem Evaluation.error_eq_limit_iff (e : Evaluation) :
    e.error = some "SPF recursion limit exceeded" ↔ e.verdict.hitLimit = true := by
  rw [Verdict.hitLimit_iff, error]
  cases e.verdict.fault with
  | none => simp
  | some fault => simp [Fault.message_eq_limit_iff]

/-- The evaluation ends with the error of the recursion limit exactly if some domain is entered at
the last depth.  Its answer is then that error, whatever stands in the records above, and its log
has no query after the one domain in front of which it stopped. -/
structure Evaluation.LimitedBy (e : Evaluation) (entered : String → Prop) : Prop where
  error_iff : e.error = some "SPF recursion limit exceeded" ↔ ∃ target, entered target
  answer : (∃ target, entered target) → e.outcome = .invalid ∧ e.verdict.raw = .permError
  silent : (∃ target, entered target) → ∃ before target after,
    e.log = before ++ .stopped target :: after ∧ entered target ∧
      (∀ domain, .stopped domain ∉ before) ∧ (∀ domain, .stopped domain ∉ after) ∧
        Log.queries after = []

theorem Evaluation.limitedBy_of_stops {entered : String → Prop} {step : Step}
    (hstops : Stops entered step) (hcoherent : step.1.Coherent)
    (hentered : ∀ target, entered target → step.1.hitLimit = true) :
    LimitedBy ⟨step.1, step.2⟩ entered := by
  cases hstops with
  | @limit v before after target hv hbefore htarget hafter =>
    have hraw : v.raw = .permError := hcoherent.raw_of_hitLimit hv
    refine ⟨?_, fun _ => ⟨?_, hraw⟩, fun _ => ?_⟩
    · rw [error_eq_limit_iff]
      exact ⟨fun _ => ⟨target, htarget⟩, fun _ => hv⟩
    · simp [outcome, hraw, Result.outcome]
    · exact ⟨before, target, after, rfl, htarget, hbefore, hafter.free, hafter.queries_eq_nil⟩
  | free hv hlog =>
    have hnone : ¬ ∃ target, entered target := by
      rintro ⟨target, htarget⟩
      rw [hentered target htarget] at hv
      cases hv
    refine ⟨?_, fun h => absurd h hnone, fun h => absurd h hnone⟩
    rw [error_eq_limit_iff, hv]
    simp [hnone]

theorem evaluate_limitedBy (dns : Dns.Resolver) (ip : Ip.Address) (domain : String) :
    (evaluate dns domain ip).LimitedBy (Enters dns ip 0 (normalizeDomain domain) maxDepth) := by
  rw [evaluate_eq]
  exact Evaluation.limitedBy_of_stops (checkDomain_stops dns ip (Nat.zero_le maxDepth) _)
    (checkDomain_coherent dns ip maxDepth _) fun target ht => hitLimit_of_enters ht rfl

theorem evaluateRecord_limitedBy (dns : Dns.Resolver) (ip : Ip.Address) (domain text : String) :
    (evaluateRecord dns domain ip text).LimitedBy fun target => IsPolicy text ∧
      ∃ next, LeadsTo dns ip (Judged dns ip 1) (normalizeDomain domain) (Text.trim text) next ∧
        Enters dns ip 1 next maxDepth target := by
  have hpass := noPassAtLimit_checkDomain dns ip (maxDepth - 1)
  rw [evaluateRecord_eq, judged_eq_givenBy]
  refine Evaluation.limitedBy_of_stops
    (checkRecord_stops hpass (checkDomain_stops dns ip (by decide)) text)
    (checkRecord_coherent (checkDomain_coherent dns ip (maxDepth - 1)) text) ?_
  rintro target ⟨htext, next, hnext, htarget⟩
  rw [checkRecord_of_isPolicy htext]
  exact hitLimit_of_leadsTo hpass hnext (hitLimit_of_enters htarget rfl)

/-- An evaluation hits the recursion limit exactly when hops of any kind lead it to a domain at
the last depth: from the domain at depth 0, or from the record given for it. -/
theorem limit_iff_entered (dns : Dns.Resolver) (ip : Ip.Address) (domain text : String) :
    (evaluate dns domain ip).LimitedBy (Enters dns ip 0 (normalizeDomain domain) maxDepth) ∧
      (evaluateRecord dns domain ip text).LimitedBy fun target => IsPolicy text ∧
        ∃ next, LeadsTo dns ip (Judged dns ip 1) (normalizeDomain domain) (Text.trim text) next ∧
          Enters dns ip 1 next maxDepth target :=
  ⟨evaluate_limitedBy dns ip domain, evaluateRecord_limitedBy dns ip domain text⟩

end SpamVerdict.Spf
