import SpamVerdict.Proofs.Ip.LetterCase
import SpamVerdict.Proofs.Spf.Rules
set_option autoImplicit false

/-!
# Letter case does not matter (SPEC_FULL §4.3)

A record may be published in any mixture of ASCII capitals and small letters.  The texts that an
evaluation copies from it, into the verdict and into the log, then differ in their letters and
nothing else does.  What may differ is folded here to lower case, from the terms of a record up to
the step for a domain; the step is the same, once folded, for a table and for the same table with
every text record in lower case (`foldStep_checkDomain`).  So two tables that fold to the same one
give the same answers up to case (`letterCase_irrelevant`).

SPEC_FULL §4.3 asks for this at the tag `v=spf1`; here it is shown of whole records.
-/

namespace SpamVerdict

namespace Text

theorem lowerAscii_append (s t : String) : lowerAscii (s ++ t) = lowerAscii s ++ lowerAscii t := by
  simp [lowerAscii]

@[simp] theorem lowerAscii_lowerAscii (s : String) : lowerAscii (lowerAscii s) = lowerAscii s := by
  have hcomp : Char.toLower ∘ Char.toLower = Char.toLower := funext toLower_toLower
  rw [lowerAscii, lowerAscii, String.toList_ofList, List.map_map, hcomp]

theorem toList_lowerAscii (s : String) : (lowerAscii s).toList = s.toList.map Char.toLower :=
  String.toList_ofList

theorem trim_lowerAscii (s : String) : trim (lowerAscii s) = lowerAscii (trim s) := by
  rw [trim, toList_lowerAscii, trimOf_map isBlank_toLower, lowerAscii, toList_trim]

end Text

namespace Dns.Resolver

/-- The table with its text records in lower case. -/
def folded (r : Resolver) : Resolver :=
  { r with txt := fun name => (r.txt name).map (List.map Text.lowerAscii) }

end Dns.Resolver

namespace Spf

/-! ## Terms -/

/-- The mechanism with the block that it names in lower case; the names of domains are already. -/
def Mechanism.folded : Mechanism → Mechanism
  | .ip4 block => .ip4 (Text.lowerAscii block)
  | .ip6 block => .ip6 (Text.lowerAscii block)
  | m => m

/-- The term with its letters in lower case. -/
def Term.folded : Term → Term
  | .directive q m => .directive q m.folded
  | .redirect target => .redirect target
  | .unsupported body => .unsupported (Text.lowerAscii body)

theorem targetOf_map_toLower (cs : List Char) : targetOf (cs.map Char.toLower) = targetOf cs := by
  rw [targetOf, Text.trimOf_map Text.isBlank_toLower, Text.lowerChars_map_toLower, targetOf]

theorem ofList_map_toLower (cs : List Char) :
    String.ofList (cs.map Char.toLower) = Text.lowerAscii (String.ofList cs) := by
  rw [Text.lowerAscii, String.toList_ofList]

theorem parse?_map_toLower (cs : List Char) :
    Mechanism.parse? (cs.map Char.toLower) = (Mechanism.parse? cs).map Mechanism.folded := by
  unfold Mechanism.parse?
  simp only [Text.sameFold_map_toLower, Text.afterFold?_map_toLower]
  -- The keywords are tried in order, and each is found in both texts or in neither.
  split
  · rfl
  · cases Text.afterFold? "ip4:".toList cs with
    | some block => simp only [Option.map_some, ofList_map_toLower, Mechanism.folded]
    | none =>
      cases Text.afterFold? "ip6:".toList cs with
      | some block =>
        simp only [Option.map_some, Option.map_none, ofList_map_toLower, Mechanism.folded]
      | none =>
        cases Text.afterFold? "include:".toList cs with
        | some target =>
          simp only [Option.map_some, Option.map_none, targetOf_map_toLower, Mechanism.folded]
        | none =>
          simp only [Option.map_none]
          split
          · rfl
          · cases Text.afterFold? "a:".toList cs with
            | some target => simp only [Option.map_some, targetOf_map_toLower, Mechanism.folded]
            | none =>
              simp only [Option.map_none]
              split
              · rfl
              · cases Text.afterFold? "mx:".toList cs with
                | some target => simp only [Option.map_some, targetOf_map_toLower, Mechanism.folded]
                | none => rfl

theorem ofSymbol?_toLower (c : Char) : Qualifier.ofSymbol? c.toLower = Qualifier.ofSymbol? c :=
  Text.apply_toLower (by decide) c

theorem splitQualifier_map_toLower (token : List Char) :
    splitQualifier (token.map Char.toLower) =
      ((splitQualifier token).1, (splitQualifier token).2.map Char.toLower) := by
  cases token with
  | nil => rfl
  | cons c cs =>
    simp only [List.map_cons, splitQualifier, ofSymbol?_toLower]
    cases Qualifier.ofSymbol? c <;> rfl

/-- A token in lower case stands for the same term, in lower case. -/
theorem ofChars_map_toLower (token : List Char) :
    Term.ofChars (token.map Char.toLower) = (Term.ofChars token).folded := by
  unfold Term.ofChars
  rw [Text.afterFold?_map_toLower]
  cases Text.afterFold? "redirect=".toList token with
  | some target => simp only [Option.map_some, targetOf_map_toLower, Term.folded]
  | none =>
    simp only [Option.map_none, splitQualifier_map_toLower, parse?_map_toLower]
    cases Mechanism.parse? (splitQualifier token).2 with
    | some m => rfl
    | none => simp only [Option.map_none, ofList_map_toLower, Term.folded]

theorem isRecord_map_toLower (cs : List Char) : isRecord (cs.map Char.toLower) = isRecord cs := by
  rw [isRecord, Text.afterFold?_map_toLower, Option.isSome_map, isRecord]

theorem tokensOf_map_toLower (cs : List Char) :
    tokensOf (cs.map Char.toLower) = (tokensOf cs).map (List.map Char.toLower) := by
  have hcomp : (fun t => !Text.sameFold t versionTag) ∘ List.map Char.toLower =
      fun t => !Text.sameFold t versionTag := by
    funext t
    rw [Function.comp_apply, Text.sameFold_map_toLower]
  rw [tokensOf, Text.words_map_toLower, List.filter_map, hcomp, tokensOf]

theorem recordsAmong_map_lowerAscii (texts : List String) :
    recordsAmong (texts.map Text.lowerAscii) = (recordsAmong texts).map Text.lowerAscii := by
  have htrim : Text.trim ∘ Text.lowerAscii = Text.lowerAscii ∘ Text.trim :=
    funext Text.trim_lowerAscii
  have hrecord : (fun r : String => isRecord r.toList) ∘ Text.lowerAscii =
      fun r : String => isRecord r.toList := by
    funext r
    rw [Function.comp_apply, Text.toList_lowerAscii, isRecord_map_toLower]
  rw [recordsAmong, List.map_map, htrim, ← List.map_map, List.filter_map, hrecord, recordsAmong]

/-! ## Steps -/

/-- The fault with its letters in lower case. -/
def Fault.folded : Fault → Fault
  | .unsupported term => .unsupported (Text.lowerAscii term)
  | fault => fault

/-- The verdict with the record and the fault in lower case. -/
def Verdict.folded (v : Verdict) : Verdict :=
  { v with record := v.record.map Text.lowerAscii, fault := v.fault.map Fault.folded }

/-- The event with its line in lower case; queries and names of domains are kept. -/
def Event.folded : Event → Event
  | .noted line => .noted (Text.lowerAscii line)
  | event => event

/-- The step with everything that it copies from records in lower case. -/
def foldStep (step : Step) : Step := (step.1.folded, step.2.map Event.folded)

/-- An attempt with everything that it copies from the record in lower case. -/
def foldAttempt (attempted : Option Verdict × Log) : Option Verdict × Log :=
  (attempted.1.map Verdict.folded, attempted.2.map Event.folded)

theorem Verdict.hitLimit_folded (v : Verdict) : v.folded.hitLimit = v.hitLimit := by
  obtain ⟨domain, raw, record, chain, fault⟩ := v
  cases fault with
  | none => rfl
  | some fault => cases fault <;> rfl

theorem Verdict.folded_faulty {fault fault' : Fault} (domain : String) (raw : Result)
    (record : String) (hfault : fault'.folded = fault.folded) :
    Verdict.folded (.faulty domain raw (some (Text.lowerAscii record)) fault') =
      Verdict.folded (.faulty domain raw (some record) fault) := by
  simp [Verdict.folded, Verdict.faulty, hfault]

theorem Verdict.folded_plain (domain : String) (raw : Result) (record : String) :
    Verdict.folded (.plain domain raw (some (Text.lowerAscii record))) =
      Verdict.folded (.plain domain raw (some record)) := by
  simp [Verdict.folded, Verdict.plain]

theorem Fault.folded_unsupported (body : String) :
    Fault.folded (.unsupported (Text.lowerAscii body)) = Fault.folded (.unsupported body) := by
  rw [Fault.folded, Fault.folded, Text.lowerAscii_lowerAscii]

/-- A line that ends in a text copied from a record. -/
theorem folded_noted_append (start rest : String) :
    Event.folded (.noted (start ++ Text.lowerAscii rest)) =
      Event.folded (.noted (start ++ rest)) := by
  rw [Event.folded, Event.folded, Text.lowerAscii_append, Text.lowerAscii_append,
    Text.lowerAscii_lowerAscii]

theorem folded_matchedLine (domain : String) (token : List Char) (q : Qualifier) :
    Event.folded (.noted (matchedLine domain (token.map Char.toLower) q)) =
      Event.folded (.noted (matchedLine domain token q)) := by
  simp only [Event.folded, matchedLine, ofList_map_toLower, Text.lowerAscii_append,
    Text.lowerAscii_lowerAscii]

section Records

variable {dns : Dns.Resolver} {ip : Ip.Address} {visit visit' : String → Step}
  {domain record : String}

theorem addressMatches_folded (name : String) :
    addressMatches dns.folded ip domain name = addressMatches dns ip domain name := by
  unfold addressMatches
  rfl

theorem hostsMatch_folded (hosts : List String) :
    hostsMatch dns.folded ip domain hosts = hostsMatch dns ip domain hosts := by
  induction hosts with
  | nil => rfl
  | cons host hosts ih => rw [hostsMatch, hostsMatch, addressMatches_folded, ih]

/-- A mechanism by itself sees the case of nothing. -/
theorem directTest_folded (m : Mechanism) :
    directTest dns.folded ip domain m.folded = directTest dns ip domain m := by
  cases m with
  | ip4 block => simp only [Mechanism.folded, directTest, Ip.Address.inBlock_lowerAscii]
  | ip6 block => simp only [Mechanism.folded, directTest, Ip.Address.inBlock_lowerAscii]
  | mx target =>
    simp only [Mechanism.folded, directTest, mxMatches, hostsMatch_folded]
    rfl
  | _ => rfl

theorem hitLimit_eq_of_foldStep {s t : Step} (h : foldStep s = foldStep t) :
    s.1.hitLimit = t.1.hitLimit := by
  rw [← Verdict.hitLimit_folded s.1, ← Verdict.hitLimit_folded t.1]
  exact congrArg (fun step => step.1.hitLimit) h

theorem raw_eq_of_foldStep {s t : Step} (h : foldStep s = foldStep t) : s.1.raw = t.1.raw :=
  congrArg (fun step => step.1.raw) h

theorem log_eq_of_foldStep {s t : Step} (h : foldStep s = foldStep t) :
    s.2.map Event.folded = t.2.map Event.folded :=
  congrArg Prod.snd h

theorem foldAttempt_attempt (hvisit : ∀ target, foldStep (visit' target) = foldStep (visit target))
    (token : List Char) :
    foldAttempt (attempt dns.folded ip visit' domain (Text.lowerAscii record)
        (token.map Char.toLower)) =
      foldAttempt (attempt dns ip visit domain record token) := by
  obtain ⟨term, hterm, hkind⟩ := exists_kind token
  have hfold : Term.ofChars (token.map Char.toLower) = term.folded := by
    rw [ofChars_map_toLower, hterm]
  cases hkind with
  | redirect target =>
    rw [Term.folded] at hfold
    rw [attempt_of_redirect hterm, attempt_of_redirect hfold]
  | unsupported body =>
    rw [Term.folded] at hfold
    rw [attempt_of_unsupported hterm, attempt_of_unsupported hfold]
    simp only [foldAttempt, Option.map_some, List.map_cons, List.map_nil, folded_noted_append,
      Verdict.folded_faulty domain .permError record (Fault.folded_unsupported body)]
  | emptyInclude q =>
    change Term.ofChars (token.map Char.toLower) = .directive q (.includes "") at hfold
    rw [attempt_of_emptyInclude hterm, attempt_of_emptyInclude hfold]
    simp only [foldAttempt, Option.map_some, Verdict.folded_faulty domain .permError record rfl]
  | @includes q target htarget =>
    change Term.ofChars (token.map Char.toLower) = .directive q (.includes target) at hfold
    have hlimit := hitLimit_eq_of_foldStep (hvisit target)
    have hraw := raw_eq_of_foldStep (hvisit target)
    have hlog := log_eq_of_foldStep (hvisit target)
    simp only [attempt_of_includes hterm htarget, attempt_of_includes hfold htarget, hlimit, hraw]
    split
    · simp only [foldAttempt, Option.map_some, List.map_cons, hlog,
        Verdict.folded_faulty domain .permError record rfl]
    · split
      · simp only [foldAttempt, Option.map_some, Verdict.folded_plain, List.map_append,
          List.map_cons, List.map_nil, folded_matchedLine, hlog]
      · simp only [foldAttempt, Option.map_none, List.map_cons, hlog]
  | @direct q m hm =>
    rw [Term.folded] at hfold
    have hm' : ∀ target, m.folded ≠ .includes target := by
      intro target heq
      cases m <;> cases heq
      exact hm target rfl
    rw [attempt_of_direct hterm hm, attempt_of_direct hfold hm', directTest_folded]
    split
    · simp only [foldAttempt, Option.map_some, Verdict.folded_plain, List.map_append,
        List.map_cons, List.map_nil, folded_matchedLine]
    · rfl

theorem foldStep_fallThrough
    (hvisit : ∀ target, foldStep (visit' target) = foldStep (visit target))
    (redirect : Option String) :
    foldStep (fallThrough visit' domain (Text.lowerAscii record) redirect) =
      foldStep (fallThrough visit domain record redirect) := by
  cases redirect with
  | none => exact Prod.ext (Verdict.folded_plain domain .neutral record) rfl
  | some target =>
    by_cases htarget : target = ""
    · subst htarget
      exact Prod.ext (Verdict.folded_faulty domain .permError record rfl) rfl
    · have hverdict := congrArg Prod.fst (hvisit target)
      have hlog := log_eq_of_foldStep (hvisit target)
      rw [fallThrough_of_redirect _ _ _ htarget, fallThrough_of_redirect _ _ _ htarget]
      refine Prod.ext ?_ ?_
      · exact congrArg (fun v : Verdict => { v with redirectChain := target :: v.redirectChain })
          hverdict
      · simp only [foldStep, List.map_cons, hlog]

theorem foldStep_scan (hvisit : ∀ target, foldStep (visit' target) = foldStep (visit target))
    (redirect : Option String) (tokens : List (List Char)) :
    foldStep (scan dns.folded ip visit' domain (Text.lowerAscii record) redirect
        (tokens.map (List.map Char.toLower))) =
      foldStep (scan dns ip visit domain record redirect tokens) := by
  induction tokens generalizing redirect with
  | nil => exact foldStep_fallThrough hvisit redirect
  | cons token tokens ih =>
    have htoken : foldAttempt (attempt dns.folded ip visit' domain (Text.lowerAscii record)
          (token.map Char.toLower)) =
        foldAttempt (attempt dns ip visit domain record token) :=
      foldAttempt_attempt hvisit token
    have hredirect : (Term.ofChars (token.map Char.toLower)).redirect? =
        (Term.ofChars token).redirect? := by
      rw [ofChars_map_toLower]
      cases Term.ofChars token <;> rfl
    rw [List.map_cons, scan, scan, hredirect]
    generalize attempt dns.folded ip visit' domain (Text.lowerAscii record)
      (token.map Char.toLower) = s at htoken
    generalize attempt dns ip visit domain record token = t at htoken
    obtain ⟨v, log⟩ := s
    obtain ⟨w, log'⟩ := t
    have hverdict : v.map Verdict.folded = w.map Verdict.folded := congrArg Prod.fst htoken
    have hlog : log.map Event.folded = log'.map Event.folded := congrArg Prod.snd htoken
    cases v with
    | some v =>
      cases w with
      | none => cases hverdict
      | some w => exact Prod.ext (Option.some.inj hverdict) hlog
    | none =>
      cases w with
      | some w => cases hverdict
      | none =>
        have hrest := ih ((Term.ofChars token).redirect?.or redirect)
        have hverdict := congrArg Prod.fst hrest
        have hrestLog := log_eq_of_foldStep hrest
        simp only [foldStep, List.map_append, hlog, hrestLog]
        exact congrArg (·, _) hverdict

theorem foldStep_checkRecord
    (hvisit : ∀ target, foldStep (visit' target) = foldStep (visit target)) (text : String) :
    foldStep (checkRecord dns.folded ip visit' domain (Text.lowerAscii text)) =
      foldStep (checkRecord dns ip visit domain text) := by
  have hcs : Text.trimOf Text.isBlank (Text.lowerAscii text).toList =
      (Text.trimOf Text.isBlank text.toList).map Char.toLower := by
    rw [Text.toList_lowerAscii, Text.trimOf_map Text.isBlank_toLower]
  unfold checkRecord
  simp only [hcs, isRecord_map_toLower, ofList_map_toLower, tokensOf_map_toLower]
  split
  · exact foldStep_scan hvisit none _
  · rw [foldStep, foldStep, Verdict.folded_faulty domain .permError _ rfl]

end Records

/-! ## Domains -/

/-- The step for a domain around the step for its one record. -/
def framed (domain record : String) (step : Step) : Step :=
  (step.1, .asked (.txt domain) :: .noted ("domain=" ++ domain ++ " spf_record=" ++ record) ::
    step.2 ++ [.noted (summary step.1)])

theorem summary_folded (v : Verdict) : summary v.folded = summary v := rfl

/-- The step for a domain with one record, from the step for the record. -/
theorem checkDomain_of_single {dns : Dns.Resolver} {domain record : String} {texts : List String}
    (ip : Ip.Address) (levels : Nat) (htxt : dns.txt domain = .ok texts)
    (hrecord : recordsAmong texts = [record]) :
    checkDomain dns ip (levels + 1) domain =
      framed domain record (checkRecord dns ip (checkDomain dns ip levels) domain record) := by
  simp only [checkDomain, htxt, hrecord, framed]

theorem foldStep_framed (domain record : String) {s t : Step} (h : foldStep s = foldStep t) :
    foldStep (framed domain (Text.lowerAscii record) s) = foldStep (framed domain record t) := by
  have hverdict : s.1.folded = t.1.folded := congrArg Prod.fst h
  have hlog : s.2.map Event.folded = t.2.map Event.folded := log_eq_of_foldStep h
  have hsummary : summary s.1 = summary t.1 := by
    rw [← summary_folded s.1, hverdict, summary_folded]
  simp only [framed, foldStep, List.map_append, List.map_cons, List.map_nil, hverdict, hlog,
    hsummary, folded_noted_append]

/-- At every level the step with all text records in lower case is the same, once folded. -/
theorem foldStep_checkDomain (dns : Dns.Resolver) (ip : Ip.Address) (levels : Nat)
    (domain : String) :
    foldStep (checkDomain dns.folded ip levels domain) =
      foldStep (checkDomain dns ip levels domain) := by
  induction levels generalizing domain with
  | zero => rfl
  | succ levels ih =>
    have hfold : dns.folded.txt domain = (dns.txt domain).map (List.map Text.lowerAscii) := rfl
    cases htxt : dns.txt domain with
    | error fault =>
      rw [htxt, Except.map] at hfold
      simp only [checkDomain, htxt, hfold]
    | ok texts =>
      rw [htxt, Except.map] at hfold
      have hrecords := recordsAmong_map_lowerAscii texts
      rcases hamong : recordsAmong texts with _ | ⟨record, _ | ⟨second, records⟩⟩
      · rw [hamong, List.map_nil] at hrecords
        simp only [checkDomain, htxt, hfold, hamong, hrecords]
      · rw [hamong, List.map_cons, List.map_nil] at hrecords
        rw [checkDomain_of_single ip levels htxt hamong,
          checkDomain_of_single ip levels hfold hrecords]
        exact foldStep_framed domain record (foldStep_checkRecord ih record)
      · rw [hamong, List.map_cons, List.map_cons] at hrecords
        simp only [checkDomain, htxt, hfold, hamong, hrecords]

/-! ## Evaluations -/

theorem queries_map_folded (log : Log) : Log.queries (log.map Event.folded) = log.queries := by
  have hquery : Event.query? ∘ Event.folded = Event.query? := by
    funext event
    cases event <;> rfl
  rw [Log.queries, List.filterMap_map, hquery, Log.queries]

theorem map_line?_folded (event : Event) :
    event.folded.line?.map Text.lowerAscii = event.line?.map Text.lowerAscii := by
  cases event with
  | asked query => rfl
  | noted line => exact congrArg some (Text.lowerAscii_lowerAscii line)
  | stopped domain => simp only [Event.folded]

theorem map_trace_folded (log : Log) :
    (Log.trace (log.map Event.folded)).map Text.lowerAscii = log.trace.map Text.lowerAscii := by
  simp only [Log.trace, List.filterMap_map, List.map_filterMap, Function.comp_apply,
    map_line?_folded]

theorem lowerAscii_message_folded (fault : Fault) :
    Text.lowerAscii fault.folded.message = Text.lowerAscii fault.message := by
  cases fault with
  | unsupported term =>
    change Text.lowerAscii ("Unsupported SPF mechanism: " ++ Text.lowerAscii term) =
      Text.lowerAscii ("Unsupported SPF mechanism: " ++ term)
    rw [Text.lowerAscii_append, Text.lowerAscii_append, Text.lowerAscii_lowerAscii]
  | _ => simp only [Fault.folded]

/-- Two evaluations decide and ask the same, and their texts are the same up to ASCII case. -/
structure SameUpToCase (e e' : Evaluation) : Prop where
  domain : e'.verdict.domain = e.verdict.domain
  outcome : e'.outcome = e.outcome
  raw : e'.verdict.raw = e.verdict.raw
  redirectChain : e'.verdict.redirectChain = e.verdict.redirectChain
  queries : e'.queries = e.queries
  record : e'.verdict.record.map Text.lowerAscii = e.verdict.record.map Text.lowerAscii
  error : e'.error.map Text.lowerAscii = e.error.map Text.lowerAscii
  trace : e'.trace.map Text.lowerAscii = e.trace.map Text.lowerAscii

theorem SameUpToCase.of_foldStep_eq {s t : Step} (h : foldStep t = foldStep s) :
    SameUpToCase ⟨s.1, s.2⟩ ⟨t.1, t.2⟩ := by
  have hverdict : t.1.folded = s.1.folded := congrArg Prod.fst h
  have hraw : t.1.raw = s.1.raw := raw_eq_of_foldStep h
  have hdomain : t.1.folded.domain = s.1.folded.domain := by rw [hverdict]
  have hchain : t.1.folded.redirectChain = s.1.folded.redirectChain := by rw [hverdict]
  have hlog : t.2.map Event.folded = s.2.map Event.folded := log_eq_of_foldStep h
  have herror (v : Verdict) : (v.folded.fault.map Fault.message).map Text.lowerAscii =
      (v.fault.map Fault.message).map Text.lowerAscii := by
    simp only [Verdict.folded, Option.map_map, Function.comp_def, lowerAscii_message_folded]
  exact {
    domain := hdomain
    outcome := congrArg Result.outcome hraw
    raw := hraw
    redirectChain := hchain
    queries := by
      change t.2.queries = s.2.queries
      rw [← queries_map_folded, hlog, queries_map_folded]
    record := congrArg Verdict.record hverdict
    error := by
      change (t.1.fault.map Fault.message).map _ = (s.1.fault.map Fault.message).map _
      rw [← herror, hverdict, herror]
    trace := by
      change t.2.trace.map _ = s.2.trace.map _
      rw [← map_trace_folded, hlog, map_trace_folded] }

theorem normalizeDomain_eq_of_lowerAscii {domain domain' : String}
    (h : Text.lowerAscii (Text.trim domain') = Text.lowerAscii (Text.trim domain)) :
    normalizeDomain domain' = normalizeDomain domain := by
  have hlower (s : String) : Text.lower (Text.lowerAscii s) = Text.lower s := by
    rw [Text.lower, Text.toList_lowerAscii, Text.lowerChars_map_toLower, Text.lower]
  rw [normalizeDomain, normalizeDomain, ← hlower, h, hlower]

/-- The letter case of text records and of the domain, and blanks around the domain, change no
verdict, no redirect and no query; they show only in the letters of the record, the error and the
trace. -/
theorem letterCase_irrelevant (dns dns' : Dns.Resolver) (ip : Ip.Address) (domain domain' : String)
    (htxt : ∀ name, (dns'.txt name).map (List.map Text.lowerAscii) =
      (dns.txt name).map (List.map Text.lowerAscii))
    (haddress : dns'.address = dns.address) (hmx : dns'.mx = dns.mx)
    (hdomain : Text.lowerAscii (Text.trim domain') = Text.lowerAscii (Text.trim domain)) :
    SameUpToCase (evaluate dns domain ip) (evaluate dns' domain' ip) := by
  have hfolded : dns'.folded = dns.folded := by
    rw [Dns.Resolver.folded, Dns.Resolver.folded, haddress, hmx, funext htxt]
  rw [evaluate_eq, evaluate_eq, normalizeDomain_eq_of_lowerAscii hdomain]
  apply SameUpToCase.of_foldStep_eq
  rw [← foldStep_checkDomain dns', hfolded, foldStep_checkDomain]

/-- A zone whose policy redirects to one that names a block and a term that is not known. -/
def quietZone : Dns.Resolver where
  txt
    | "example.test" => .ok ["v=spf1 ip6:2001:db8::a/127 redirect=other.test"]
    | "other.test" => .ok ["v=spf1 exists:x.test"]
    | _ => .error .timeout
  address _ _ := .ok []
  mx _ := .ok []

/-- The same zone in other letters. -/
def shoutingZone : Dns.Resolver where
  txt
    | "example.test" => .ok ["V=SPF1 IP6:2001:DB8::A/127 Redirect=OTHER.test"]
    | "other.test" => .ok ["V=spf1 Exists:X.test"]
    | _ => .error .timeout
  address _ _ := .ok []
  mx _ := .ok []

/-- An address beside the block ends at the unknown term, which is shown as it is written. -/
theorem letterCase_irrelevant_shoutingZone :
    let e := evaluate quietZone "example.test" (.v6 ⟨0x2001, 0xdb8, 0, 0, 0, 0, 0, 0xc⟩)
    let e' := evaluate shoutingZone " Example.TEST\t" (.v6 ⟨0x2001, 0xdb8, 0, 0, 0, 0, 0, 0xc⟩)
    e.error = some "Unsupported SPF mechanism: exists:x.test" ∧
      e'.error = some "Unsupported SPF mechanism: Exists:X.test" ∧ SameUpToCase e e' := by
  refine ⟨by decide +kernel, by decide +kernel, ?_⟩
  refine letterCase_irrelevant quietZone shoutingZone _ "example.test" " Example.TEST\t" ?_ rfl rfl
    (by decide +kernel)
  intro name
  simp only [quietZone, shoutingZone]
  split
  · exact congrArg Except.ok (by decide +kernel)
  · exact congrArg Except.ok (by decide +kernel)
  · rfl

end Spf

end SpamVerdict
