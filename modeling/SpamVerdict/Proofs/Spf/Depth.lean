import SpamVerdict.Proofs.Spf.Limit
import SpamVerdict.Proofs.Text.Fold
set_option autoImplicit false

/-!
# Depth shows only at the limit (SPEC_FULL §4.3, §14.11)

The depth at which a domain is entered says how many levels are left below it, and nothing else
depends on it.  So a domain that does not meet the recursion limit at some depth has the same step,
verdict and log, at every smaller depth (`checkDomain_of_le`).

It follows that the result of an `include` can be looked up on its own.  Where an evaluation does
not end at the limit, no `include` that it reaches does, however deep in the records it stands, so
it matches exactly if the evaluation of its target from the start is a pass
(`depth_shows_only_at_limit`).  An `include` without a target is an error before anything is looked
up, so it says nothing about the empty name (`emptyInclude_unlike_alone`).

By SPEC_FULL §14.11 the limit is the one result of an `include` that is not just "no match"; here it
is shown to be the one in which the depth can be told.
-/

namespace SpamVerdict.Spf

/-! ## More levels -/

/-- The second step function gives the steps of the first one that do not meet the limit. -/
def Extends (visit visit' : String → Step) : Prop :=
  ∀ target, (visit target).1.hitLimit = false → visit' target = visit target

section Levels

variable {dns : Dns.Resolver} {ip : Ip.Address} {visit visit' : String → Step}
  {domain record : String}

theorem attempt_of_extends (hvisit : Extends visit visit') {token : List Char}
    (htoken : ∀ v, (attempt dns ip visit domain record token).1 = some v → v.hitLimit = false) :
    attempt dns ip visit' domain record token = attempt dns ip visit domain record token := by
  obtain ⟨term, hterm, hkind⟩ := exists_kind token
  cases hkind with
  | redirect target => rw [attempt_of_redirect hterm, attempt_of_redirect hterm]
  | unsupported body => rw [attempt_of_unsupported hterm, attempt_of_unsupported hterm]
  | emptyInclude q => rw [attempt_of_emptyInclude hterm, attempt_of_emptyInclude hterm]
  | @includes q target htarget =>
    have hlimit : (visit target).1.hitLimit = false := by
      apply Bool.eq_false_iff.2
      intro hlimit
      have hsettled : (attempt dns ip visit domain record token).1 =
          some (.faulty domain .permError (some record) .recursionLimit) := by
        simp [attempt_of_includes hterm htarget, hlimit]
      have hfree := htoken _ hsettled
      cases hfree
    rw [attempt_of_includes hterm htarget, attempt_of_includes hterm htarget, hvisit target hlimit]
  | direct q hm => rw [attempt_of_direct hterm hm, attempt_of_direct hterm hm]

theorem fallThrough_of_extends (hvisit : Extends visit visit') {redirect : Option String}
    (hfall : (fallThrough visit domain record redirect).1.hitLimit = false) :
    fallThrough visit' domain record redirect = fallThrough visit domain record redirect := by
  cases redirect with
  | none => rfl
  | some target =>
    by_cases htarget : target = ""
    · subst htarget
      rfl
    · rw [fallThrough_of_redirect _ _ _ htarget] at hfall ⊢
      rw [fallThrough_of_redirect _ _ _ htarget, hvisit target hfall]

/-- A scan that does not meet the limit visits no domain that does. -/
theorem scan_of_extends (hvisit : Extends visit visit') {redirect : Option String}
    {tokens : List (List Char)}
    (hscan : (scan dns ip visit domain record redirect tokens).1.hitLimit = false) :
    scan dns ip visit' domain record redirect tokens =
      scan dns ip visit domain record redirect tokens := by
  induction tokens generalizing redirect with
  | nil => exact fallThrough_of_extends hvisit hscan
  | cons token tokens ih =>
    have htoken : attempt dns ip visit' domain record token =
        attempt dns ip visit domain record token := by
      apply attempt_of_extends hvisit
      intro v hv
      rw [scan] at hscan
      cases hattempt : attempt dns ip visit domain record token with
      | mk verdict log =>
        rw [hattempt] at hv hscan
        obtain rfl : verdict = some v := hv
        exact hscan
    rw [scan] at hscan
    rw [scan, scan, htoken]
    cases hattempt : attempt dns ip visit domain record token with
    | mk verdict log =>
      rw [hattempt] at hscan
      cases verdict with
      | some v => rfl
      | none =>
        dsimp only at hscan ⊢
        rw [ih hscan]

end Levels

/-- A domain that does not meet the limit makes the same step with more levels left. -/
theorem checkDomain_of_le {dns : Dns.Resolver} {ip : Ip.Address} {levels levels' : Nat}
    (hle : levels ≤ levels') :
    Extends (checkDomain dns ip levels) (checkDomain dns ip levels') := by
  induction levels generalizing levels' with
  | zero =>
    intro domain hdomain
    cases hdomain
  | succ levels ih =>
    intro domain hdomain
    obtain ⟨more, rfl⟩ : ∃ more, levels' = more + 1 := ⟨levels' - 1, by omega⟩
    have hvisit : Extends (checkDomain dns ip levels) (checkDomain dns ip more) := ih (by omega)
    by_cases hpublishes : ∃ text, Publishes dns domain text
    · obtain ⟨text, htext⟩ := hpublishes
      simp only [checkDomain_of_publishes htext] at hdomain ⊢
      rw [scan_of_extends hvisit hdomain]
    · exact checkDomain_eq_of_not_publishes (not_exists.1 hpublishes)

/-! ## Written includes -/

/-- A token is an `include`: behind a qualifier, which need not be written, stand the keyword in any
ASCII case and the name of a domain. -/
def Includes (token : List Char) (q : Qualifier) (name : List Char) : Prop :=
  ∃ key, splitQualifier token = (q, key ++ name) ∧ key.map Char.toLower = "include:".toList

theorem parse?_of_includeKey {key name : List Char}
    (hkey : key.map Char.toLower = "include:".toList) :
    Mechanism.parse? (key ++ name) = some (.includes (targetOf name)) := by
  have hfold : (key ++ name).map Char.toLower = "include:".toList ++ name.map Char.toLower := by
    rw [List.map_append, hkey]
  have hall : Text.sameFold (key ++ name) "all".toList = false := by
    rw [← Text.sameFold_map_toLower, hfold]
    rfl
  have hip4 : Text.afterFold? "ip4:".toList (key ++ name) = none := by
    apply Text.afterFold?_eq_none_of_map
    rw [hfold]
    rfl
  have hip6 : Text.afterFold? "ip6:".toList (key ++ name) = none := by
    apply Text.afterFold?_eq_none_of_map
    rw [hfold]
    rfl
  have hinclude : Text.afterFold? "include:".toList (key ++ name) = some name :=
    Text.afterFold?_append (hkey.trans (by decide))
  simp only [Mechanism.parse?, hall, hip4, hip6, hinclude, Bool.false_eq_true, if_false]

/-- The symbol of a qualifier hides no redirect. -/
theorem afterFold?_redirect_of_splitQualifier {token body : List Char} {q : Qualifier}
    (hsplit : splitQualifier token = (q, body))
    (hbody : Text.afterFold? "redirect=".toList body = none) :
    Text.afterFold? "redirect=".toList token = none := by
  cases token with
  | nil => rfl
  | cons c cs =>
    unfold splitQualifier at hsplit
    dsimp only at hsplit
    split at hsplit
    · next hsymbol =>
      unfold Qualifier.ofSymbol? at hsymbol
      split at hsymbol
      all_goals first | rfl | cases hsymbol
    · cases hsplit
      exact hbody

theorem ofChars_of_includes {token name : List Char} {q : Qualifier}
    (h : Includes token q name) :
    Term.ofChars token = .directive q (.includes (targetOf name)) := by
  obtain ⟨key, hsplit, hkey⟩ := h
  have hredirect : Text.afterFold? "redirect=".toList (key ++ name) = none := by
    apply Text.afterFold?_eq_none_of_map
    rw [List.map_append, hkey]
    rfl
  have htoken := afterFold?_redirect_of_splitQualifier hsplit hredirect
  simp only [Term.ofChars, htoken, hsplit, parse?_of_includeKey hkey]

theorem mem_of_mem_splitQualifier {token : List Char} {c : Char}
    (hc : c ∈ (splitQualifier token).2) : c ∈ token := by
  cases token with
  | nil => exact hc
  | cons first rest =>
    unfold splitQualifier at hc
    dsimp only at hc
    split at hc
    · exact List.mem_cons_of_mem first hc
    · exact hc

theorem lowerChars_eq_nil_iff {cs : List Char} : Text.lowerChars cs = [] ↔ cs = [] := by
  cases cs with
  | nil => exact iff_of_true rfl rfl
  | cons c cs =>
    refine iff_of_false ?_ (List.cons_ne_nil c cs)
    unfold Text.lowerChars Text.lowerAfter
    split
    · exact List.cons_ne_nil _ _
    · split <;> exact List.cons_ne_nil _ _

/-- An `include` in a record has an empty target only if it names no domain. -/
theorem targetOf_ne_empty {cs token name : List Char} {q : Qualifier} (htoken : token ∈ tokensOf cs)
    (h : Includes token q name) (hname : name ≠ []) : targetOf name ≠ "" := by
  obtain ⟨key, hsplit, -⟩ := h
  have hblank : ∀ c ∈ name, Text.isBlank c = false := by
    intro c hc
    have hbody : c ∈ (splitQualifier token).2 := by
      rw [hsplit]
      exact List.mem_append_right key hc
    exact Text.isBlank_eq_false_of_mem_words (List.mem_filter.1 htoken).1 c
      (mem_of_mem_splitQualifier hbody)
  rw [targetOf, Text.trimOf_eq_self hblank]
  intro hempty
  have hlower : Text.lowerChars name = [] := by simpa using congrArg String.toList hempty
  exact hname (lowerChars_eq_nil_iff.1 hlower)

/-- The target of a written `include` is the name as the evaluation of a domain takes it. -/
theorem normalizeDomain_ofList (name : List Char) :
    normalizeDomain (String.ofList name) = targetOf name := by
  rw [normalizeDomain, Text.lower, Text.toList_trim, String.toList_ofList, targetOf]

/-! ## What an evaluation reads -/

/-- The evaluation of a record that is entered at some depth reads a record at another one. -/
inductive Reads (dns : Dns.Resolver) (ip : Ip.Address) :
    Nat → String → String → Nat → String → String → Prop where
  | here (depth : Nat) (domain record : String) :
      Reads dns ip depth domain record depth domain record
  | hop {depth last : Nat} {domain record next text inner inside : String}
      (hnext : LeadsTo dns ip (Judged dns ip (depth + 1)) domain record next)
      (hdepth : depth + 1 < maxDepth) (htext : Publishes dns next text)
      (hrest : Reads dns ip (depth + 1) next (Text.trim text) last inner inside) :
      Reads dns ip depth domain record last inner inside

/-- Every `include` that is reached in the evaluation of a record, or below it, settles the same as
if its target were evaluated from the start: it matches exactly if that gives a pass, and otherwise
the scan goes on.  An `include` that names no domain is an error and looks nothing up. -/
def IncludesAsAlone (dns : Dns.Resolver) (ip : Ip.Address) (domain record : String) : Prop :=
  ∀ depth inner inside before token after q name,
    Reads dns ip 0 domain record depth inner inside →
    tokensOf inside.toList = before ++ token :: after →
    Undecided dns ip (Judged dns ip (depth + 1)) inner inside (before.map Term.ofChars) →
    Includes token q name →
    (attempt dns ip (checkDomain dns ip (maxDepth - (depth + 1))) inner inside token).1 =
      if name = [] then some (.faulty inner .permError (some inside) .emptyInclude)
      else if (evaluate dns (String.ofList name) ip).verdict.raw = .pass then
        some (.plain inner q.result (some inside))
      else none

section Reading

variable {dns : Dns.Resolver} {ip : Ip.Address} {domain record next : String}

/-- The step for a record that is entered at some depth. -/
def recordStep (dns : Dns.Resolver) (ip : Ip.Address) (depth : Nat) (domain record : String) :
    Step :=
  scan dns ip (checkDomain dns ip (maxDepth - (depth + 1))) domain record none
    (tokensOf record.toList)

theorem checkDomain_verdict_of_publishes {depth : Nat} {text : String} (hdepth : depth < maxDepth)
    (htext : Publishes dns domain text) :
    (checkDomain dns ip (maxDepth - depth) domain).1 =
      (recordStep dns ip depth domain (Text.trim text)).1 := by
  obtain ⟨levels, hlevels⟩ : ∃ levels, maxDepth - depth = levels + 1 :=
    ⟨maxDepth - (depth + 1), by omega⟩
  have hbelow : maxDepth - (depth + 1) = levels := by omega
  rw [hlevels, recordStep, hbelow]
  simp only [checkDomain_of_publishes htext]

/-- A record that does not end at the limit leads to no domain that does. -/
theorem hitLimit_eq_false_of_leadsTo {depth : Nat}
    (hnext : LeadsTo dns ip (Judged dns ip (depth + 1)) domain record next)
    (hfree : (recordStep dns ip depth domain record).1.hitLimit = false) :
    (checkDomain dns ip (maxDepth - (depth + 1)) next).1.hitLimit = false := by
  apply Bool.eq_false_iff.2
  intro hlimit
  rw [judged_eq_givenBy] at hnext
  rw [recordStep, hitLimit_of_leadsTo (noPassAtLimit_checkDomain dns ip _) hnext hlimit] at hfree
  cases hfree

theorem hitLimit_eq_false_of_reads {depth last : Nat} {inner inside : String}
    (h : Reads dns ip depth domain record last inner inside)
    (hfree : (recordStep dns ip depth domain record).1.hitLimit = false) :
    (recordStep dns ip last inner inside).1.hitLimit = false := by
  induction h with
  | here => exact hfree
  | hop hnext hdepth htext _ ih =>
    apply ih
    rw [← checkDomain_verdict_of_publishes hdepth htext]
    exact hitLimit_eq_false_of_leadsTo hnext hfree

theorem includesAsAlone_of_hitLimit
    (hfree : (recordStep dns ip 0 domain record).1.hitLimit = false) :
    IncludesAsAlone dns ip domain record := by
  intro depth inner inside before token after q name hreads htokens hbefore hinclude
  have hterm := ofChars_of_includes hinclude
  by_cases hname : name = []
  · rw [if_pos hname]
    subst hname
    rw [attempt_of_emptyInclude hterm]
  · have hmem : token ∈ tokensOf inside.toList := by
      rw [htokens]
      exact List.mem_append_right before List.mem_cons_self
    have htarget : targetOf name ≠ "" := targetOf_ne_empty hmem hinclude hname
    have hterms : termsOf inside = before.map Term.ofChars ++
        .directive q (.includes (targetOf name)) :: after.map Term.ofChars := by
      rw [termsOf, htokens, List.map_append, List.map_cons, hterm]
    have hvisit :
        (checkDomain dns ip (maxDepth - (depth + 1)) (targetOf name)).1.hitLimit = false :=
      hitLimit_eq_false_of_leadsTo (.includes hterms hbefore htarget)
        (hitLimit_eq_false_of_reads hreads hfree)
    have halone : checkDomain dns ip maxDepth (targetOf name) =
        checkDomain dns ip (maxDepth - (depth + 1)) (targetOf name) :=
      checkDomain_of_le (Nat.sub_le _ _) _ hvisit
    rw [if_neg hname, evaluate_eq, normalizeDomain_ofList, halone,
      attempt_of_includes hterm htarget]
    simp only [hvisit, Bool.false_eq_true, if_false]
    split <;> rfl

end Reading

/-! ## Evaluations -/

/-- A domain that does not meet the recursion limit at some depth gives the same verdict with the
same log, so the same trace lines and the same queries, at every smaller depth.  In an evaluation
of a domain or of a record that does not end with the error of the limit, every `include` that is
reached and names a domain matches exactly if that domain, evaluated from the start, is a pass. -/
theorem depth_shows_only_at_limit (dns : Dns.Resolver) (ip : Ip.Address) (domain : String) :
    (∀ depth depth', depth ≤ depth' →
        (checkDomain dns ip (maxDepth - depth') domain).1.hitLimit = false →
        checkDomain dns ip (maxDepth - depth) domain =
          checkDomain dns ip (maxDepth - depth') domain) ∧
      (∀ text, Publishes dns (normalizeDomain domain) text →
        (evaluate dns domain ip).error ≠ some "SPF recursion limit exceeded" →
        IncludesAsAlone dns ip (normalizeDomain domain) (Text.trim text)) ∧
      ∀ text, IsPolicy text →
        (evaluateRecord dns domain ip text).error ≠ some "SPF recursion limit exceeded" →
        IncludesAsAlone dns ip (normalizeDomain domain) (Text.trim text) := by
  refine ⟨?_, ?_, ?_⟩
  · intro depth depth' hdepth hfree
    exact checkDomain_of_le (Nat.sub_le_sub_left hdepth maxDepth) domain hfree
  · intro text htext herror
    apply includesAsAlone_of_hitLimit
    rw [Ne, Evaluation.error_eq_limit_iff, Bool.not_eq_true] at herror
    rw [← checkDomain_verdict_of_publishes (by decide) htext]
    exact herror
  · intro text htext herror
    apply includesAsAlone_of_hitLimit
    rw [Ne, Evaluation.error_eq_limit_iff, Bool.not_eq_true, evaluateRecord_eq] at herror
    rw [recordStep, ← checkRecord_of_isPolicy htext]
    exact herror

/-- Answers under which the empty name has a policy, and another policy includes it. -/
def namelessZone : Dns.Resolver where
  txt
    | "start.test" => .ok ["v=spf1 include: -all"]
    | "" => .ok ["v=spf1 +all"]
    | _ => .error .timeout
  address _ _ := .ok []
  mx _ := .ok []

/-- An `include` of the empty name is reached and does not match, though that name, evaluated from
the start, passes; and the evaluation does not end with the error of the limit. -/
theorem emptyInclude_unlike_alone :
    let ip := Ip.Address.v4 ⟨192, 0, 2, 1⟩
    let record := "v=spf1 include: -all"
    (evaluate namelessZone "start.test" ip).error = some "Invalid include mechanism" ∧
      tokensOf record.toList = "include:".toList :: ["-all".toList] ∧
      Includes "include:".toList .pass "".toList ∧
      (evaluate namelessZone "" ip).verdict.raw = .pass ∧
      (attempt namelessZone ip (checkDomain namelessZone ip 7) "start.test" record
        "include:".toList).1 ≠ some (.plain "start.test" .pass (some record)) := by
  intro ip record
  have hincludes : Includes "include:".toList .pass "".toList :=
    ⟨"include:".toList, by decide, by decide⟩
  exact ⟨by decide +kernel, by decide +kernel, hincludes, by decide +kernel, by decide +kernel⟩

/-- Answers in which one policy includes another that includes a third. -/
def nestedZone : Dns.Resolver where
  txt
    | "start.test" => .ok ["v=spf1 include:Mid.test -all"]
    | "mid.test" => .ok ["v=spf1 ~Include:End.test -all"]
    | "end.test" => .ok ["v=spf1 ip4:192.0.2.0/24 -all"]
    | _ => .error .timeout
  address _ _ := .ok []
  mx _ := .ok []

theorem publishes_nestedZone {domain text : String} (htxt : nestedZone.txt domain = .ok [text])
    (htext : isRecord (Text.trim text).toList = true) : Publishes nestedZone domain text := by
  have hnone : ∀ t ∈ ([] : List String), ¬ IsPolicy t := fun _ ht => nomatch ht
  exact ⟨(isRecord_trim_iff text).1 htext, [], [], htxt, hnone, hnone⟩

/-- Five levels down the evaluation is the same, and the inner `include` matches as its target. -/
theorem depth_shows_only_at_limit_nestedZone :
    let ip := Ip.Address.v4 ⟨192, 0, 2, 1⟩
    let inside := "v=spf1 ~Include:End.test -all"
    checkDomain nestedZone ip 8 "start.test" = checkDomain nestedZone ip 3 "start.test" ∧
      (evaluate nestedZone "End.test" ip).verdict.raw = .pass ∧
      (attempt nestedZone ip (checkDomain nestedZone ip 6) "mid.test" inside
          "~Include:End.test".toList).1 = some (.plain "mid.test" .softFail (some inside)) := by
  intro ip inside
  have hstart : Publishes nestedZone "start.test" "v=spf1 include:Mid.test -all" :=
    publishes_nestedZone rfl (by decide +kernel)
  have hmid : Publishes nestedZone "mid.test" inside :=
    publishes_nestedZone rfl (by decide +kernel)
  obtain ⟨hdepth, hdomain, -⟩ := depth_shows_only_at_limit nestedZone ip "start.test"
  have hterms : termsOf (Text.trim "v=spf1 include:Mid.test -all") =
      [] ++ .directive .pass (.includes "mid.test") :: [.directive .fail .all] := by decide +kernel
  have hleads : LeadsTo nestedZone ip (Judged nestedZone ip 1) "start.test"
      (Text.trim "v=spf1 include:Mid.test -all") "mid.test" :=
    .includes hterms (fun _ ht => nomatch ht) (by decide)
  have hreads : Reads nestedZone ip 0 "start.test" (Text.trim "v=spf1 include:Mid.test -all")
      1 "mid.test" (Text.trim inside) := .hop hleads (by decide) hmid (.here 1 _ _)
  have htrim : Text.trim inside = inside := by decide +kernel
  have hpass : (evaluate nestedZone "End.test" ip).verdict.raw = .pass := by decide +kernel
  have hinclude := hdomain _ hstart (by decide +kernel) 1 "mid.test" (Text.trim inside) []
    "~Include:End.test".toList ["-all".toList] .softFail "End.test".toList hreads
    (by decide +kernel) (fun _ ht => nomatch ht) ⟨"Include:".toList, by decide, by decide⟩
  rw [htrim, if_neg (by decide), String.ofList_toList, if_pos hpass] at hinclude
  exact ⟨hdepth 0 5 (by decide) (by decide +kernel), hpass, hinclude⟩

end SpamVerdict.Spf
