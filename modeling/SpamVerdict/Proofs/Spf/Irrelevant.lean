import SpamVerdict.Proofs.Spf.Rules
import SpamVerdict.Proofs.Text.Words
set_option autoImplicit false

/-!
# What is irrelevant in a record (SPEC_FULL §4.3)

A redirect is looked at only when no token of the record decides, and then only the last one is.
Up to that the scan passes over redirects without a trace, and it never sees what stands behind the
first token that decides.  So a record may be rewritten in these places: everything that can be
observed of its evaluation stays the same, but for the text of the record that the verdict shows
(`irrelevant_text`).

SPEC_FULL §4.3 says of a redirect that it "only takes effect if no mechanism matched", and of the
scan that it stops at the first match; both are taken here as rules for rewriting.
-/

namespace SpamVerdict.Spf

/-! ## Redirects among tokens -/

/-- A token is a redirect: it starts with the keyword in any ASCII case. -/
def isRedirect (token : List Char) : Bool :=
  (Text.afterFold? "redirect=".toList token).isSome

/-- The tokens of a list that are no redirects, in order. -/
def withoutRedirects (tokens : List (List Char)) : List (List Char) :=
  tokens.filter fun token => !isRedirect token

/-- The second list is the first one with every redirect but the last deleted and the last one moved
to some place. -/
inductive KeepsLastRedirect (tokens tokens' : List (List Char)) : Prop where
  | unmoved (htokens : ∀ token ∈ tokens, isRedirect token = false) (heq : tokens' = tokens)
  | moved (before after front back : List (List Char)) (last : List Char)
      (htokens : tokens = before ++ last :: after) (hlast : isRedirect last = true)
      (hafter : ∀ token ∈ after, isRedirect token = false)
      (hrest : withoutRedirects tokens = front ++ back) (heq : tokens' = front ++ last :: back)

theorem redirect?_eq_none {token : List Char} (h : isRedirect token = false) :
    (Term.ofChars token).redirect? = none := by
  have hnone : Text.afterFold? "redirect=".toList token = none := by
    simpa [isRedirect] using h
  unfold Term.ofChars
  rw [hnone]
  dsimp only
  split <;> rfl

theorem exists_redirect {token : List Char} (h : isRedirect token = true) :
    ∃ target, Term.ofChars token = .redirect target := by
  obtain ⟨value, hvalue⟩ := Option.isSome_iff_exists.1 h
  refine ⟨targetOf value, ?_⟩
  unfold Term.ofChars
  rw [hvalue]

theorem lastRedirect_of_none {tokens : List (List Char)}
    (h : ∀ token ∈ tokens, isRedirect token = false) :
    lastRedirect (tokens.map Term.ofChars) = none := by
  induction tokens with
  | nil => rfl
  | cons token tokens ih =>
    rw [List.map_cons, lastRedirect_cons, redirect?_eq_none (h token List.mem_cons_self),
      ih fun t ht => h t (List.mem_cons_of_mem token ht), Option.or_none]

theorem lastRedirect_of_last {before after : List (List Char)} {last : List Char} {target : String}
    (hlast : Term.ofChars last = .redirect target)
    (hafter : ∀ token ∈ after, isRedirect token = false) :
    lastRedirect ((before ++ last :: after).map Term.ofChars) = some target := by
  induction before with
  | nil =>
    rw [List.nil_append, List.map_cons, lastRedirect_cons, lastRedirect_of_none hafter, hlast]
    rfl
  | cons token before ih =>
    rw [List.cons_append, List.map_cons, lastRedirect_cons, ih, Option.some_or]

theorem mem_withoutRedirects {tokens : List (List Char)} {token : List Char}
    (h : token ∈ tokens) : isRedirect token = true ∨ token ∈ withoutRedirects tokens := by
  cases htoken : isRedirect token with
  | true => exact .inl rfl
  | false => exact .inr (List.mem_filter.2 ⟨h, by simp [htoken]⟩)

/-! ## Steps but for the record -/

/-- A step without the record that its verdict shows. -/
def sansRecord (step : Step) : Step := ({ step.1 with record := none }, step.2)

section Scan

variable {dns : Dns.Resolver} {ip : Ip.Address} {visit : String → Step} {domain record : String}

/-- The record is passed on to the verdict and is used for nothing else. -/
theorem attempt_record (record record' : String) (token : List Char) :
    attempt dns ip visit domain record' token =
      ((attempt dns ip visit domain record token).1.map fun v => { v with record := some record' },
        (attempt dns ip visit domain record token).2) := by
  obtain ⟨term, hterm, hkind⟩ := exists_kind token
  cases hkind with
  | redirect target =>
    rw [attempt_of_redirect hterm, attempt_of_redirect hterm]
    rfl
  | unsupported body =>
    rw [attempt_of_unsupported hterm, attempt_of_unsupported hterm]
    rfl
  | emptyInclude q =>
    rw [attempt_of_emptyInclude hterm, attempt_of_emptyInclude hterm]
    rfl
  | includes q htarget =>
    rw [attempt_of_includes hterm htarget, attempt_of_includes hterm htarget]
    dsimp only
    split
    · rfl
    · split <;> rfl
  | direct q hm =>
    rw [attempt_of_direct hterm hm, attempt_of_direct hterm hm]
    split <;> rfl

theorem sansRecord_fallThrough (record' : String) (redirect : Option String) :
    sansRecord (fallThrough visit domain record' redirect) =
      sansRecord (fallThrough visit domain record redirect) := by
  cases redirect with
  | none => rfl
  | some target =>
    by_cases htarget : target = ""
    · subst htarget
      rfl
    · rw [fallThrough_of_redirect _ _ _ htarget, fallThrough_of_redirect _ _ _ htarget]

/-- What is logged while tokens are tried. -/
def attemptsLog (dns : Dns.Resolver) (ip : Ip.Address) (visit : String → Step) (domain : String)
    (tokens : List (List Char)) : Log :=
  tokens.flatMap fun token => (attempt dns ip visit domain "" token).2

theorem attemptsLog_eq (tokens : List (List Char)) :
    (tokens.flatMap fun token => (attempt dns ip visit domain record token).2) =
      attemptsLog dns ip visit domain tokens := by
  unfold attemptsLog
  congr 1
  funext token
  rw [attempt_record "" record token]

theorem attempt_of_isRedirect {token : List Char} (h : isRedirect token = true) :
    attempt dns ip visit domain record token = (none, []) := by
  obtain ⟨target, hterm⟩ := exists_redirect h
  exact attempt_of_redirect hterm

/-- Redirects leave no trace while the tokens are tried. -/
theorem attemptsLog_withoutRedirects (tokens : List (List Char)) :
    attemptsLog dns ip visit domain (withoutRedirects tokens) =
      attemptsLog dns ip visit domain tokens := by
  unfold attemptsLog withoutRedirects
  induction tokens with
  | nil => rfl
  | cons token tokens ih =>
    cases htoken : isRedirect token with
    | true =>
      rw [List.filter_cons_of_neg (by simp [htoken]), ih, List.flatMap_cons,
        attempt_of_isRedirect htoken, List.nil_append]
    | false =>
      rw [List.filter_cons_of_pos (by simp [htoken]), List.flatMap_cons, ih, List.flatMap_cons]

/-- Tokens that are the same but for redirects are open for one record if they are for another. -/
theorem attempt_eq_none_of_withoutRedirects {tokens tokens' : List (List Char)} {record' : String}
    (hsame : withoutRedirects tokens' = withoutRedirects tokens)
    (hopen : ∀ t ∈ tokens, (attempt dns ip visit domain record t).1 = none) :
    ∀ t ∈ tokens', (attempt dns ip visit domain record' t).1 = none := by
  intro t ht
  rcases mem_withoutRedirects ht with hredirect | hmem
  · rw [attempt_of_isRedirect hredirect]
  · rw [hsame] at hmem
    have hnone := hopen t (List.mem_filter.1 hmem).1
    rw [attempt_record record record' t, hnone]
    rfl

/-- Up to the first token that decides, redirects may come and go; behind it, everything may. -/
theorem sansRecord_scan_settled {before before' after after' : List (List Char)}
    {token : List Char} {record' : String} {v : Verdict}
    (hbefore : ∀ t ∈ before, (attempt dns ip visit domain record t).1 = none)
    (htoken : (attempt dns ip visit domain record token).1 = some v)
    (hsame : withoutRedirects before' = withoutRedirects before) :
    sansRecord (scan dns ip visit domain record' none (before' ++ token :: after')) =
      sansRecord (scan dns ip visit domain record none (before ++ token :: after)) := by
  have hbefore' : ∀ t ∈ before', (attempt dns ip visit domain record' t).1 = none :=
    attempt_eq_none_of_withoutRedirects hsame hbefore
  have htoken' : (attempt dns ip visit domain record' token).1 =
      some { v with record := some record' } := by
    rw [attempt_record record record' token, htoken]
    rfl
  have hlog : (attempt dns ip visit domain record' token).2 =
      (attempt dns ip visit domain record token).2 := by
    rw [attempt_record record record' token]
  rw [scan_settled hbefore htoken, scan_settled hbefore' htoken', attemptsLog_eq, attemptsLog_eq,
    ← attemptsLog_withoutRedirects before, ← attemptsLog_withoutRedirects before', hsame, hlog]
  rfl

/-- Where no token decides, only the last redirect counts, wherever it stands. -/
theorem sansRecord_scan_open {tokens tokens' : List (List Char)} {record' : String}
    (hopen : ∀ t ∈ tokens, (attempt dns ip visit domain record t).1 = none)
    (hsame : withoutRedirects tokens' = withoutRedirects tokens)
    (hlast : lastRedirect (tokens'.map Term.ofChars) = lastRedirect (tokens.map Term.ofChars)) :
    sansRecord (scan dns ip visit domain record' none tokens') =
      sansRecord (scan dns ip visit domain record none tokens) := by
  have hopen' : ∀ t ∈ tokens', (attempt dns ip visit domain record' t).1 = none :=
    attempt_eq_none_of_withoutRedirects hsame hopen
  have hfall (redirect : Option String) :
      sansRecord (fallThrough visit domain record' redirect) =
        sansRecord (fallThrough visit domain record redirect) :=
    sansRecord_fallThrough record' redirect
  rw [scan_open hopen, scan_open hopen', hlast, Option.or_none, attemptsLog_eq, attemptsLog_eq,
    ← attemptsLog_withoutRedirects tokens, ← attemptsLog_withoutRedirects tokens', hsame]
  have hverdict := congrArg Prod.fst (hfall (lastRedirect (tokens.map Term.ofChars)))
  have hlog := congrArg Prod.snd (hfall (lastRedirect (tokens.map Term.ofChars)))
  exact Prod.ext hverdict (congrArg (attemptsLog dns ip visit domain _ ++ ·) hlog)

end Scan

/-! ## Evaluations of records -/

/-- The first token of a text is the version tag, in any ASCII case. -/
def StartsWithTag (text : String) : Prop :=
  ∃ tag others, Text.words text.toList = tag :: others ∧
    tag.map Char.toLower = versionTag.map Char.toLower

/-- Two evaluations agree in everything that can be observed but the record that they show. -/
structure SameButRecord (e e' : Evaluation) : Prop where
  domain : e'.verdict.domain = e.verdict.domain
  outcome : e'.outcome = e.outcome
  raw : e'.verdict.raw = e.verdict.raw
  redirectChain : e'.verdict.redirectChain = e.verdict.redirectChain
  error : e'.error = e.error
  trace : e'.trace = e.trace
  queries : e'.queries = e.queries

theorem SameButRecord.of_sansRecord_eq {step step' : Step}
    (h : sansRecord step' = sansRecord step) :
    SameButRecord ⟨step.1, step.2⟩ ⟨step'.1, step'.2⟩ := by
  obtain ⟨v, log⟩ := step
  obtain ⟨v', log'⟩ := step'
  simp only [sansRecord, Prod.mk.injEq, Verdict.mk.injEq] at h
  obtain ⟨⟨hdomain, hraw, -, hchain, hfault⟩, rfl⟩ := h
  exact ⟨hdomain, congrArg Result.outcome hraw, hraw, hchain,
    congrArg (Option.map Fault.message) hfault, rfl, rfl⟩

theorem tokensOf_trim (text : String) :
    tokensOf (Text.trim text).toList = tokensOf text.toList := by
  rw [tokensOf, Text.toList_trim, Text.words_trimOf, tokensOf]

theorem isPolicy_of_startsWithTag {text : String} (h : StartsWithTag text) : IsPolicy text := by
  obtain ⟨tag, others, hwords, htag⟩ := h
  obtain ⟨rest, hrest⟩ := Text.exists_trimOf_eq_append hwords
  exact ⟨tag, rest, by rw [Text.toList_trim, hrest], htag⟩

theorem evaluateRecord_of_startsWithTag (dns : Dns.Resolver) (domain : String) (ip : Ip.Address)
    {text : String} (htext : StartsWithTag text) :
    let step := scan dns ip (checkDomain dns ip (maxDepth - 1)) (normalizeDomain domain)
      (Text.trim text) none (tokensOf text.toList)
    evaluateRecord dns domain ip text = ⟨step.1, step.2⟩ := by
  rw [evaluateRecord_eq, checkRecord_of_isPolicy (isPolicy_of_startsWithTag htext), tokensOf_trim]

theorem withoutRedirects_withoutRedirects (tokens : List (List Char)) :
    withoutRedirects (withoutRedirects tokens) = withoutRedirects tokens := by
  simp [withoutRedirects]

theorem KeepsLastRedirect.withoutRedirects_eq {tokens tokens' : List (List Char)}
    (h : KeepsLastRedirect tokens tokens') :
    withoutRedirects tokens' = withoutRedirects tokens := by
  cases h with
  | unmoved _ heq => rw [heq]
  | moved before after front back last _ hlast _ hrest heq =>
    have hplain : withoutRedirects (front ++ last :: back) = withoutRedirects (front ++ back) := by
      simp [withoutRedirects, hlast]
    rw [heq, hplain, ← hrest, withoutRedirects_withoutRedirects]

theorem KeepsLastRedirect.lastRedirect_eq {tokens tokens' : List (List Char)}
    (h : KeepsLastRedirect tokens tokens') :
    lastRedirect (tokens'.map Term.ofChars) = lastRedirect (tokens.map Term.ofChars) := by
  cases h with
  | unmoved _ heq => rw [heq]
  | moved before after front back last htokens hlast hafter hrest heq =>
    obtain ⟨target, hterm⟩ := exists_redirect hlast
    have hback : ∀ token ∈ back, isRedirect token = false := by
      intro token hmem
      have hplain : token ∈ withoutRedirects tokens := by
        rw [hrest]
        exact List.mem_append_right front hmem
      simpa using (List.mem_filter.1 hplain).2
    rw [heq, htokens, lastRedirect_of_last hterm hback, lastRedirect_of_last hterm hafter]

/-- Two records that start with the version tag give the same answer, trace and queries for a
domain, if the second one is the first one with irrelevant tokens changed.  Where some token of the
first one decides, these are the redirects before the first such token and everything behind it.
Where none decides, they are the redirects other than the last, and the place of the last. -/
theorem irrelevant_text (dns : Dns.Resolver) (ip : Ip.Address) (domain text text' : String)
    (htext : StartsWithTag text) (htext' : StartsWithTag text') :
    (∀ before token after before' after',
        tokensOf text.toList = before ++ token :: after →
        Undecided dns ip (Judged dns ip 1) (normalizeDomain domain) (Text.trim text)
          (before.map Term.ofChars) →
        (∃ v, Decides dns ip (Judged dns ip 1) (normalizeDomain domain) (Text.trim text)
          (Term.ofChars token) v) →
        tokensOf text'.toList = before' ++ token :: after' →
        withoutRedirects before' = withoutRedirects before →
        SameButRecord (evaluateRecord dns domain ip text) (evaluateRecord dns domain ip text')) ∧
      (Undecided dns ip (Judged dns ip 1) (normalizeDomain domain) (Text.trim text)
          ((tokensOf text.toList).map Term.ofChars) →
        KeepsLastRedirect (tokensOf text.toList) (tokensOf text'.toList) →
        SameButRecord (evaluateRecord dns domain ip text)
          (evaluateRecord dns domain ip text')) := by
  have hpass := noPassAtLimit_checkDomain dns ip (maxDepth - 1)
  rw [judged_eq_givenBy, evaluateRecord_of_startsWithTag dns domain ip htext,
    evaluateRecord_of_startsWithTag dns domain ip htext']
  refine ⟨?_, ?_⟩
  · rintro before token after before' after' htokens hbefore ⟨v, hv⟩ htokens' hsame
    rw [htokens, htokens']
    apply SameButRecord.of_sansRecord_eq
    exact sansRecord_scan_settled ((undecided_iff hpass).1 hbefore) (attempt_of_decides hpass hv)
      hsame
  · intro hopen hkeeps
    apply SameButRecord.of_sansRecord_eq
    exact sansRecord_scan_open ((undecided_iff hpass).1 hopen) hkeeps.withoutRedirects_eq
      hkeeps.lastRedirect_eq

/-- Answers in which one domain passes all addresses and another one fails them. -/
def dividedZone : Dns.Resolver where
  txt
    | "pass.test" => .ok ["v=spf1 +all"]
    | "fail.test" => .ok ["v=spf1 -all"]
    | _ => .error .timeout
  address _ _ := .ok []
  mx _ := .ok []

theorem undecided_dividedZone {domain record : String} {tokens : List (List Char)}
    (h : ∀ t ∈ tokens, (attempt dividedZone (.v4 ⟨192, 0, 2, 1⟩)
      (checkDomain dividedZone (.v4 ⟨192, 0, 2, 1⟩) 7) domain record t).1 = none) :
    Undecided dividedZone (.v4 ⟨192, 0, 2, 1⟩) (Judged dividedZone (.v4 ⟨192, 0, 2, 1⟩) 1) domain
      record (tokens.map Term.ofChars) := by
  rw [judged_eq_givenBy]
  exact (undecided_iff (noPassAtLimit_checkDomain dividedZone _ 7)).2 h

/-- Redirects come and go before the term that matches, and an unsupported term stands behind it;
where nothing matches, the last redirect moves to the front. -/
theorem irrelevant_text_dividedZone :
    let evaluated := evaluateRecord dividedZone "example.test" (.v4 ⟨192, 0, 2, 1⟩)
    SameButRecord (evaluated "v=spf1 redirect=fail.test include:fail.test ~all -all")
        (evaluated " V=SPF1 include:fail.test Redirect= redirect=pass.test ~all exists:x.test") ∧
      SameButRecord (evaluated "v=spf1 redirect=fail.test a redirect=pass.test include:fail.test")
        (evaluated "v=spf1 redirect=pass.test a include:fail.test") := by
  have hall : Term.ofChars "~all".toList = .directive .softFail .all := by decide
  refine ⟨?_, ?_⟩
  · refine (irrelevant_text dividedZone (.v4 ⟨192, 0, 2, 1⟩) "example.test" _ _
      ⟨"v=spf1".toList, _, rfl, by decide⟩ ⟨"V=SPF1".toList, _, rfl, by decide⟩).1
      ["redirect=fail.test".toList, "include:fail.test".toList] "~all".toList ["-all".toList]
      ["include:fail.test".toList, "Redirect=".toList, "redirect=pass.test".toList]
      ["exists:x.test".toList] (by decide +kernel)
      (undecided_dividedZone (by decide +kernel)) ?_ (by decide +kernel) (by decide)
    rw [hall]
    exact ⟨_, .found .all⟩
  · refine (irrelevant_text dividedZone (.v4 ⟨192, 0, 2, 1⟩) "example.test" _ _
      ⟨"v=spf1".toList, _, rfl, by decide⟩ ⟨"v=spf1".toList, _, rfl, by decide⟩).2
      (undecided_dividedZone (by decide +kernel)) ?_
    exact .moved ["redirect=fail.test".toList, "a".toList] ["include:fail.test".toList]
      [] ["a".toList, "include:fail.test".toList] "redirect=pass.test".toList
      (by decide +kernel) (by decide) (by decide) (by decide +kernel) (by decide +kernel)

end SpamVerdict.Spf
