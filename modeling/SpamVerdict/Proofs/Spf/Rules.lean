import SpamVerdict.Proofs.Spf.Scan
set_option autoImplicit false

/-!
# The meaning of a policy (SPEC_FULL §4.3)

The verdict on a domain is given here by rules that know no order of evaluation, no log and no
loop.  A record is read whole into its terms (`termsOf`).  A term is decisive if it settles the
verdict on its own (`Decides`), and the leftmost decisive term of a record speaks for it
(`RecordJudged`).  `Judged` counts the levels of nesting upwards from 0.

The evaluation gives exactly the verdict of the rules, so the rules give every domain and every
text one verdict and no more (`judged_iff_evaluated`).  On the way it turns out that a verdict has
a fault exactly when its result is an error (`checkDomain_coherent`).

The rules are SPEC_FULL §4.3 as a relation, a constructor for each way in which one of its two
procedures returns.
-/

namespace SpamVerdict.Spf

/-! ## Rules -/

/-- A text is published as a policy: without the blanks around it, it starts with the version tag
in any ASCII case. -/
def IsPolicy (text : String) : Prop :=
  ∃ tag rest, (Text.trim text).toList = tag ++ rest ∧
    tag.map Char.toLower = versionTag.map Char.toLower

/-- A text is the only policy among the text records of a domain. -/
def Publishes (dns : Dns.Resolver) (domain text : String) : Prop :=
  IsPolicy text ∧ ∃ before after, dns.txt domain = .ok (before ++ text :: after) ∧
    (∀ t ∈ before, ¬ IsPolicy t) ∧ ∀ t ∈ after, ¬ IsPolicy t

/-- The terms of a record, without its version tag. -/
def termsOf (record : String) : List Term :=
  (tokensOf record.toList).map Term.ofChars

/-- A mechanism matches the sending address; `judged target v` says that `v` is the verdict on
`target` one level deeper. -/
inductive Matches (dns : Dns.Resolver) (ip : Ip.Address) (judged : String → Verdict → Prop)
    (domain : String) : Mechanism → Prop where
  | all : Matches dns ip judged domain .all
  | ip4 {block : String} (h : ip.inBlock block = true) : Matches dns ip judged domain (.ip4 block)
  | ip6 {block : String} (h : ip.inBlock block = true) : Matches dns ip judged domain (.ip6 block)
  | includes {target : String} {v : Verdict} (htarget : target ≠ "") (hv : judged target v)
      (hpass : v.raw = .pass) : Matches dns ip judged domain (.includes target)
  | a {target : Option String} (h : HasAddress dns ip (target.getD domain)) :
      Matches dns ip judged domain (.a target)
  | mx {target : Option String} (h : HasExchanger dns ip (target.getD domain)) :
      Matches dns ip judged domain (.mx target)

/-- A term is decisive, and the verdict that it settles. -/
inductive Decides (dns : Dns.Resolver) (ip : Ip.Address) (judged : String → Verdict → Prop)
    (domain record : String) : Term → Verdict → Prop where
  | unsupported (body : String) :
      Decides dns ip judged domain record (.unsupported body)
        (.faulty domain .permError (some record) (.unsupported body))
  | emptyInclude (q : Qualifier) :
      Decides dns ip judged domain record (.directive q (.includes ""))
        (.faulty domain .permError (some record) .emptyInclude)
  | limit {q : Qualifier} {target : String} {v : Verdict} (htarget : target ≠ "")
      (hv : judged target v) (hlimit : v.hitLimit = true) :
      Decides dns ip judged domain record (.directive q (.includes target))
        (.faulty domain .permError (some record) .recursionLimit)
  | found {q : Qualifier} {m : Mechanism} (hm : Matches dns ip judged domain m) :
      Decides dns ip judged domain record (.directive q m)
        (.plain domain q.result (some record))

/-- None of the terms is decisive. -/
def Undecided (dns : Dns.Resolver) (ip : Ip.Address) (judged : String → Verdict → Prop)
    (domain record : String) (terms : List Term) : Prop :=
  ∀ term ∈ terms, ∀ v, ¬ Decides dns ip judged domain record term v

/-- The verdict that a record gives on the domain that publishes it. -/
inductive RecordJudged (dns : Dns.Resolver) (ip : Ip.Address) (judged : String → Verdict → Prop)
    (domain record : String) : Verdict → Prop where
  /-- The leftmost decisive term settles the verdict. -/
  | decided {before after : List Term} {term : Term} {v : Verdict}
      (hterms : termsOf record = before ++ term :: after)
      (hbefore : Undecided dns ip judged domain record before)
      (hterm : Decides dns ip judged domain record term v) :
      RecordJudged dns ip judged domain record v
  | neutral (hterms : Undecided dns ip judged domain record (termsOf record))
      (hredirect : lastRedirect (termsOf record) = none) :
      RecordJudged dns ip judged domain record (.plain domain .neutral (some record))
  | emptyRedirect (hterms : Undecided dns ip judged domain record (termsOf record))
      (hredirect : lastRedirect (termsOf record) = some "") :
      RecordJudged dns ip judged domain record
        (.faulty domain .permError (some record) .emptyRedirect)
  /-- The last redirect stands in for a record that decides nothing. -/
  | redirected {target : String} {v : Verdict}
      (hterms : Undecided dns ip judged domain record (termsOf record))
      (hredirect : lastRedirect (termsOf record) = some target) (htarget : target ≠ "")
      (hv : judged target v) :
      RecordJudged dns ip judged domain record
        { v with redirectChain := target :: v.redirectChain }

/-- The verdict that a text gives when it is taken for the record of a domain. -/
inductive TextJudged (dns : Dns.Resolver) (ip : Ip.Address) (judged : String → Verdict → Prop)
    (domain text : String) : Verdict → Prop where
  | notARecord (htext : ¬ IsPolicy text) :
      TextJudged dns ip judged domain text
        (.faulty domain .permError (some (Text.trim text)) .notARecord)
  | record {v : Verdict} (htext : IsPolicy text)
      (hv : RecordJudged dns ip judged domain (Text.trim text) v) :
      TextJudged dns ip judged domain text v

/-- The verdict on a domain whose text records may be looked up. -/
inductive DomainJudged (dns : Dns.Resolver) (ip : Ip.Address) (judged : String → Verdict → Prop)
    (domain : String) : Verdict → Prop where
  | lookupFailed {fault : Dns.Fault} (htxt : dns.txt domain = .error fault) :
      DomainJudged dns ip judged domain (.faulty domain .tempError none (.lookupFailed fault))
  | noPolicy {texts : List String} (htxt : dns.txt domain = .ok texts)
      (htexts : ∀ text ∈ texts, ¬ IsPolicy text) :
      DomainJudged dns ip judged domain (.plain domain .none none)
  | severalPolicies {before between after : List String} {first second : String}
      (htxt : dns.txt domain = .ok (before ++ first :: (between ++ second :: after)))
      (hfirst : IsPolicy first) (hsecond : IsPolicy second) :
      DomainJudged dns ip judged domain (.faulty domain .permError none .severalRecords)
  | onePolicy {text : String} {v : Verdict} (htext : Publishes dns domain text)
      (hv : RecordJudged dns ip judged domain (Text.trim text) v) :
      DomainJudged dns ip judged domain v

/-- The verdict on a domain that is entered `depth` levels deep. -/
def Judged (dns : Dns.Resolver) (ip : Ip.Address) (depth : Nat) : String → Verdict → Prop :=
  if depth < maxDepth then DomainJudged dns ip (Judged dns ip (depth + 1))
  else fun domain v => v = .faulty domain .permError none .recursionLimit
termination_by maxDepth - depth

/-! ## Terms -/

/-- The verdict that a step function gives. -/
def GivenBy (visit : String → Step) (target : String) (v : Verdict) : Prop :=
  v = (visit target).1

/-- No verdict that a step function gives is at once a verdict of the limit and a pass. -/
def NoPassAtLimit (visit : String → Step) : Prop :=
  ∀ target, (visit target).1.hitLimit = true → (visit target).1.raw ≠ .pass

section Terms

variable {dns : Dns.Resolver} {ip : Ip.Address} {visit : String → Step} {domain record : String}

theorem directTest_iff {m : Mechanism} (hm : ∀ target, m ≠ .includes target) :
    (directTest dns ip domain m).1 = true ↔ Matches dns ip (GivenBy visit) domain m := by
  cases m with
  | all => exact ⟨fun _ => .all, fun _ => rfl⟩
  | ip4 block => exact ⟨.ip4, fun | .ip4 h => h⟩
  | ip6 block => exact ⟨.ip6, fun | .ip6 h => h⟩
  | includes target => exact absurd rfl (hm target)
  | a target =>
    have h := addressMatches_iff dns ip domain (target.getD domain)
    exact ⟨fun hfound => .a (h.1 hfound), fun | .a ha => h.2 ha⟩
  | mx target =>
    have h := mxMatches_iff dns ip domain (target.getD domain)
    exact ⟨fun hfound => .mx (h.1 hfound), fun | .mx ha => h.2 ha⟩

/-- A token settles the verdict only as the rules say. -/
theorem decides_of_attempt {token : List Char} {v : Verdict}
    (h : (attempt dns ip visit domain record token).1 = some v) :
    Decides dns ip (GivenBy visit) domain record (Term.ofChars token) v := by
  obtain ⟨term, hterm, hkind⟩ := exists_kind token
  rw [hterm]
  cases hkind with
  | redirect target =>
    rw [attempt_of_redirect hterm] at h
    cases h
  | unsupported body =>
    rw [attempt_of_unsupported hterm] at h
    exact Option.some.inj h ▸ .unsupported body
  | emptyInclude q =>
    rw [attempt_of_emptyInclude hterm] at h
    exact Option.some.inj h ▸ .emptyInclude q
  | includes q htarget =>
    simp only [attempt_of_includes hterm htarget] at h
    split at h
    · next hlimit => exact Option.some.inj h ▸ .limit htarget rfl hlimit
    · split at h
      · next hpass => exact Option.some.inj h ▸ .found (.includes htarget rfl hpass)
      · cases h
  | direct q hdirect =>
    rw [attempt_of_direct hterm hdirect] at h
    split at h
    · next hfound => exact Option.some.inj h ▸ .found ((directTest_iff hdirect).1 hfound)
    · cases h

/-- The verdict of a scan is settled by a decisive term or falls through. -/
theorem scan_verdict {P : Verdict → Prop} (tokens : List (List Char)) (redirect : Option String)
    (hdecided : ∀ term v, Decides dns ip (GivenBy visit) domain record term v → P v)
    (hthrough : ∀ target, P (fallThrough visit domain record target).1) :
    P (scan dns ip visit domain record redirect tokens).1 := by
  rcases open_or_settled dns ip visit domain record tokens with
    hopen | ⟨before, token, after, v, rfl, hbefore, htoken⟩
  · rw [scan_open hopen]
    exact hthrough _
  · rw [scan_settled hbefore htoken]
    exact hdecided _ v (decides_of_attempt htoken)

/-- A token settles the verdict wherever the rules say so.  The two rules for an `include` that
reaches its target exclude each other only if no verdict of the limit is a pass. -/
theorem attempt_of_decides {token : List Char} {v : Verdict} (hvisit : NoPassAtLimit visit)
    (h : Decides dns ip (GivenBy visit) domain record (Term.ofChars token) v) :
    (attempt dns ip visit domain record token).1 = some v := by
  generalize hterm : Term.ofChars token = term at h
  cases h with
  | unsupported body => rw [attempt_of_unsupported hterm]
  | emptyInclude q => rw [attempt_of_emptyInclude hterm]
  | limit htarget hv hlimit =>
    obtain rfl := hv
    simp [attempt_of_includes hterm htarget, hlimit]
  | @found q m hm =>
    by_cases hinclude : ∃ target, m = .includes target
    · obtain ⟨target, rfl⟩ := hinclude
      cases hm with
      | includes htarget hv hpass =>
        obtain rfl := hv
        have hlimit : (visit target).1.hitLimit = false :=
          Bool.eq_false_iff.2 fun hl => hvisit target hl hpass
        simp [attempt_of_includes hterm htarget, hlimit, hpass]
    · have hdirect := not_exists.1 hinclude
      rw [attempt_of_direct hterm hdirect, if_pos ((directTest_iff hdirect).2 hm)]

theorem attempt_eq_none_iff {token : List Char} (hvisit : NoPassAtLimit visit) :
    (attempt dns ip visit domain record token).1 = none ↔
      ∀ v, ¬ Decides dns ip (GivenBy visit) domain record (Term.ofChars token) v := by
  constructor
  · intro hnone v hv
    rw [attempt_of_decides hvisit hv] at hnone
    cases hnone
  · intro hnone
    cases hattempt : (attempt dns ip visit domain record token).1 with
    | none => rfl
    | some v => exact absurd (decides_of_attempt hattempt) (hnone v)

theorem undecided_iff {tokens : List (List Char)} (hvisit : NoPassAtLimit visit) :
    Undecided dns ip (GivenBy visit) domain record (tokens.map Term.ofChars) ↔
      ∀ t ∈ tokens, (attempt dns ip visit domain record t).1 = none := by
  simp [Undecided, attempt_eq_none_iff hvisit]

end Terms

/-! ## Faults and results -/

/-- The result that goes with a fault. -/
def Fault.result : Fault → Result
  | .lookupFailed _ => .tempError
  | _ => .permError

/-- A verdict with a fault has the result of that fault, and one without is no error. -/
def Verdict.Coherent (v : Verdict) : Prop :=
  match v.fault with
  | some fault => v.raw = fault.result
  | none => v.raw.outcome ≠ .invalid

theorem Verdict.hitLimit_iff {v : Verdict} :
    v.hitLimit = true ↔ v.fault = some .recursionLimit := by
  simp [hitLimit]

/-- Where the recursion limit was reached, the result is a permanent error. -/
theorem Verdict.Coherent.raw_of_hitLimit {v : Verdict} (hv : v.Coherent)
    (hlimit : v.hitLimit = true) : v.raw = .permError := by
  simpa [Coherent, hitLimit_iff.1 hlimit, Fault.result] using hv

theorem Qualifier.outcome_result_ne_invalid (q : Qualifier) : q.result.outcome ≠ .invalid := by
  cases q <;> decide

theorem Decides.coherent {dns : Dns.Resolver} {ip : Ip.Address}
    {judged : String → Verdict → Prop} {domain record : String} {term : Term} {v : Verdict}
    (h : Decides dns ip judged domain record term v) : v.Coherent := by
  cases h with
  | unsupported body => rfl
  | emptyInclude q => rfl
  | limit htarget hv hlimit => rfl
  | found hm => exact Qualifier.outcome_result_ne_invalid _

theorem Decides.redirectChain_eq_nil {dns : Dns.Resolver} {ip : Ip.Address}
    {judged : String → Verdict → Prop} {domain record : String} {term : Term} {v : Verdict}
    (h : Decides dns ip judged domain record term v) : v.redirectChain = [] := by
  cases h <;> rfl

section Coherent

variable {dns : Dns.Resolver} {ip : Ip.Address} {visit : String → Step} {domain : String}

theorem fallThrough_coherent {record : String} (hvisit : ∀ target, (visit target).1.Coherent)
    (redirect : Option String) : (fallThrough visit domain record redirect).1.Coherent := by
  unfold fallThrough
  split
  · exact (by decide : Result.neutral.outcome ≠ .invalid)
  · split
    · rfl
    · exact hvisit _

theorem checkRecord_coherent (hvisit : ∀ target, (visit target).1.Coherent) (text : String) :
    (checkRecord dns ip visit domain text).1.Coherent := by
  unfold checkRecord
  dsimp only
  split
  · exact scan_verdict _ _ (fun _ _ h => h.coherent) (fallThrough_coherent hvisit)
  · rfl

theorem checkDomain_coherent (dns : Dns.Resolver) (ip : Ip.Address) (levels : Nat)
    (domain : String) : (checkDomain dns ip levels domain).1.Coherent := by
  induction levels generalizing domain with
  | zero => rfl
  | succ levels ih =>
    unfold checkDomain
    dsimp only
    split
    · rfl
    · split
      · exact (by decide : Result.none.outcome ≠ .invalid)
      · exact checkRecord_coherent ih _
      · rfl

theorem noPassAtLimit_checkDomain (dns : Dns.Resolver) (ip : Ip.Address) (levels : Nat) :
    NoPassAtLimit (checkDomain dns ip levels) := by
  intro domain hlimit
  rw [(checkDomain_coherent dns ip levels domain).raw_of_hitLimit hlimit]
  decide

end Coherent

/-! ## Records -/

section Records

variable {dns : Dns.Resolver} {ip : Ip.Address} {visit : String → Step} {domain : String}

theorem isRecord_trim_iff (text : String) :
    isRecord (Text.trim text).toList = true ↔ IsPolicy text := by
  unfold isRecord IsPolicy
  rw [Option.isSome_iff_exists]
  constructor
  · rintro ⟨rest, hrest⟩
    obtain ⟨tag, htext, htag⟩ := Text.afterFold?_eq_some hrest
    exact ⟨tag, rest, htext, htag⟩
  · rintro ⟨tag, rest, htext, htag⟩
    exact ⟨rest, by rw [htext, Text.afterFold?_append htag]⟩

theorem isPolicy_trim (text : String) : IsPolicy (Text.trim text) ↔ IsPolicy text := by
  simp [IsPolicy]

theorem checkRecord_of_isPolicy {text : String} (htext : IsPolicy text) :
    checkRecord dns ip visit domain text =
      scan dns ip visit domain (Text.trim text) none (tokensOf (Text.trim text).toList) := by
  have hrecord := (isRecord_trim_iff text).2 htext
  rw [Text.toList_trim] at hrecord ⊢
  simp [checkRecord, hrecord, Text.trim]

theorem checkRecord_of_not_isPolicy {text : String} (htext : ¬ IsPolicy text) :
    checkRecord dns ip visit domain text =
      (.faulty domain .permError (some (Text.trim text)) .notARecord, []) := by
  have hrecord := mt (isRecord_trim_iff text).1 htext
  rw [Text.toList_trim] at hrecord
  simp [checkRecord, hrecord, Text.trim]

theorem scan_of_undecided {record : String} (hvisit : NoPassAtLimit visit)
    (hterms : Undecided dns ip (GivenBy visit) domain record (termsOf record)) :
    (scan dns ip visit domain record none (tokensOf record.toList)).1 =
      (fallThrough visit domain record (lastRedirect (termsOf record))).1 := by
  rw [scan_open ((undecided_iff hvisit).1 hterms), Option.or_none, termsOf]

/-- The leftmost decisive term is the first token that settles the verdict. -/
theorem recordJudged_iff {record : String} {v : Verdict} (hvisit : NoPassAtLimit visit) :
    RecordJudged dns ip (GivenBy visit) domain record v ↔
      v = (scan dns ip visit domain record none (tokensOf record.toList)).1 := by
  constructor
  · intro h
    cases h with
    | decided hterms hbefore hterm =>
      obtain ⟨bs, rest, htokens, rfl, hrest⟩ := List.map_eq_append_iff.1 hterms
      obtain ⟨token, as, rfl, rfl, rfl⟩ := List.map_eq_cons_iff.1 hrest
      rw [htokens, scan_settled ((undecided_iff hvisit).1 hbefore)
        (attempt_of_decides hvisit hterm)]
    | neutral hterms hredirect => rw [scan_of_undecided hvisit hterms, hredirect, fallThrough]
    | emptyRedirect hterms hredirect =>
      rw [scan_of_undecided hvisit hterms, hredirect]
      rfl
    | redirected hterms hredirect htarget hv =>
      obtain rfl := hv
      rw [scan_of_undecided hvisit hterms, hredirect, fallThrough_of_redirect _ _ _ htarget]
  · rintro rfl
    rcases open_or_settled dns ip visit domain record (tokensOf record.toList) with
      hopen | ⟨before, token, after, v, htokens, hbefore, htoken⟩
    · have hterms : Undecided dns ip (GivenBy visit) domain record (termsOf record) :=
        (undecided_iff hvisit).2 hopen
      rw [scan_of_undecided hvisit hterms]
      cases hredirect : lastRedirect (termsOf record) with
      | none => exact .neutral hterms hredirect
      | some target =>
        by_cases htarget : target = ""
        · subst htarget
          exact .emptyRedirect hterms hredirect
        · rw [fallThrough_of_redirect _ _ _ htarget]
          exact .redirected hterms hredirect htarget rfl
    · have hterms : termsOf record =
          before.map Term.ofChars ++ Term.ofChars token :: after.map Term.ofChars := by
        simp [termsOf, htokens]
      rw [htokens, scan_settled hbefore htoken]
      exact .decided hterms ((undecided_iff hvisit).2 hbefore) (decides_of_attempt htoken)

theorem textJudged_iff {text : String} {v : Verdict} (hvisit : NoPassAtLimit visit) :
    TextJudged dns ip (GivenBy visit) domain text v ↔
      v = (checkRecord dns ip visit domain text).1 := by
  by_cases htext : IsPolicy text
  · rw [checkRecord_of_isPolicy htext, ← recordJudged_iff hvisit]
    exact ⟨fun | .notARecord h => absurd htext h | .record _ hv => hv, .record htext⟩
  · rw [checkRecord_of_not_isPolicy htext]
    constructor
    · intro h
      cases h with
      | notARecord => rfl
      | record h => exact absurd h htext
    · rintro rfl
      exact .notARecord htext

end Records

/-! ## Domains -/

theorem recordsAmong_eq_nil_iff {texts : List String} :
    recordsAmong texts = [] ↔ ∀ text ∈ texts, ¬ IsPolicy text := by
  simp [recordsAmong, ← isRecord_trim_iff]

theorem recordsAmong_eq_cons_iff {texts records : List String} {record : String} :
    recordsAmong texts = record :: records ↔
      ∃ before text after, texts = before ++ text :: after ∧ (∀ t ∈ before, ¬ IsPolicy t) ∧
        IsPolicy text ∧ Text.trim text = record ∧ recordsAmong after = records := by
  simp only [recordsAmong, List.filter_map, List.map_eq_cons_iff, List.filter_eq_cons_iff,
    Function.comp_apply, isRecord_trim_iff]
  constructor
  · rintro ⟨text, rest, ⟨before, after, htexts, hbefore, htext, rfl⟩, hrecord, hrecords⟩
    exact ⟨before, text, after, htexts, hbefore, htext, hrecord, hrecords⟩
  · rintro ⟨before, text, after, htexts, hbefore, htext, hrecord, hrecords⟩
    exact ⟨text, _, ⟨before, after, htexts, hbefore, htext, rfl⟩, hrecord, hrecords⟩

/-- There is more than one policy among the texts exactly if two of them can be pointed at. -/
theorem two_le_length_recordsAmong_iff {texts : List String} :
    2 ≤ (recordsAmong texts).length ↔
      ∃ before first between second after,
        texts = before ++ first :: (between ++ second :: after) ∧
          IsPolicy first ∧ IsPolicy second := by
  constructor
  · intro h
    match hrecords : recordsAmong texts with
    | [] => simp [hrecords] at h
    | [_] => simp [hrecords] at h
    | _ :: _ :: _ =>
      obtain ⟨before, first, rest, rfl, _, hfirst, _, hrest⟩ :=
        recordsAmong_eq_cons_iff.1 hrecords
      obtain ⟨between, second, after, rfl, _, hsecond, _⟩ := recordsAmong_eq_cons_iff.1 hrest
      exact ⟨before, first, between, second, after, rfl, hfirst, hsecond⟩
  · rintro ⟨before, first, between, second, after, rfl, hfirst, hsecond⟩
    have h₁ := (isRecord_trim_iff first).2 hfirst
    have h₂ := (isRecord_trim_iff second).2 hsecond
    rw [Text.toList_trim] at h₁ h₂
    simp only [recordsAmong, List.map_append, List.map_cons, List.filter_append,
      Text.toList_trim, List.filter_cons, h₁, h₂, if_true, List.length_append, List.length_cons]
    omega

section Domains

variable {dns : Dns.Resolver} {ip : Ip.Address} {levels : Nat} {domain : String}

theorem checkDomain_of_error {fault : Dns.Fault} (htxt : dns.txt domain = .error fault) :
    (checkDomain dns ip (levels + 1) domain).1 =
      .faulty domain .tempError none (.lookupFailed fault) := by
  simp [checkDomain, htxt]

theorem checkDomain_of_none {texts : List String} (htxt : dns.txt domain = .ok texts)
    (htexts : recordsAmong texts = []) :
    (checkDomain dns ip (levels + 1) domain).1 = .plain domain .none none := by
  simp [checkDomain, htxt, htexts]

theorem checkDomain_of_one {texts : List String} {record : String}
    (htxt : dns.txt domain = .ok texts) (htexts : recordsAmong texts = [record]) :
    (checkDomain dns ip (levels + 1) domain).1 =
      (checkRecord dns ip (checkDomain dns ip levels) domain record).1 := by
  simp [checkDomain, htxt, htexts]

theorem checkDomain_of_several {texts : List String} (htxt : dns.txt domain = .ok texts)
    (htexts : 2 ≤ (recordsAmong texts).length) :
    (checkDomain dns ip (levels + 1) domain).1 =
      .faulty domain .permError none .severalRecords := by
  match hrecords : recordsAmong texts with
  | [] => simp [hrecords] at htexts
  | [_] => simp [hrecords] at htexts
  | _ :: _ :: _ => simp [checkDomain, htxt, hrecords]

theorem publishes_iff {texts : List String} (htxt : dns.txt domain = .ok texts) {record : String} :
    recordsAmong texts = [record] ↔
      ∃ text, Publishes dns domain text ∧ Text.trim text = record := by
  rw [recordsAmong_eq_cons_iff]
  constructor
  · rintro ⟨before, text, after, rfl, hbefore, htext, hrecord, hafter⟩
    exact ⟨text, ⟨htext, before, after, htxt, hbefore, recordsAmong_eq_nil_iff.1 hafter⟩, hrecord⟩
  · rintro ⟨text, ⟨htext, before, after, htexts, hbefore, hafter⟩, hrecord⟩
    obtain rfl : texts = before ++ text :: after := Except.ok.inj (htxt.symm.trans htexts)
    exact ⟨before, text, after, rfl, hbefore, htext, hrecord, recordsAmong_eq_nil_iff.2 hafter⟩

theorem checkDomain_of_publishes {text : String} (htext : Publishes dns domain text) :
    checkDomain dns ip (levels + 1) domain =
      let step := scan dns ip (checkDomain dns ip levels) domain (Text.trim text) none
        (tokensOf (Text.trim text).toList)
      (step.1, .asked (.txt domain) ::
        .noted ("domain=" ++ domain ++ " spf_record=" ++ Text.trim text) :: step.2 ++
          [.noted (summary step.1)]) := by
  obtain ⟨hpolicy, before, after, htxt, _⟩ := id htext
  have hrecords := (publishes_iff htxt).2 ⟨text, htext, rfl⟩
  have hchecked : checkRecord dns ip (checkDomain dns ip levels) domain (Text.trim text) =
      scan dns ip (checkDomain dns ip levels) domain (Text.trim text) none
        (tokensOf (Text.trim text).toList) := by
    rw [checkRecord_of_isPolicy ((isPolicy_trim text).2 hpolicy), Text.trim_trim]
  simp [checkDomain, htxt, hrecords, hchecked]

/-- A domain without a single policy is judged by its text records alone. -/
theorem checkDomain_of_not_publishes (ip : Ip.Address) (levels : Nat)
    (h : ∀ text, ¬ Publishes dns domain text) :
    ∃ v line, checkDomain dns ip (levels + 1) domain = (v, [.asked (.txt domain), .noted line]) ∧
      ((∃ fault, dns.txt domain = .error fault ∧
          v = .faulty domain .tempError none (.lookupFailed fault)) ∨
        (∃ texts, dns.txt domain = .ok texts ∧ recordsAmong texts = [] ∧
          v = .plain domain .none none) ∨
        ∃ texts, dns.txt domain = .ok texts ∧ 2 ≤ (recordsAmong texts).length ∧
          v = .faulty domain .permError none .severalRecords) := by
  unfold checkDomain
  dsimp only
  cases htxt : dns.txt domain with
  | error fault => exact ⟨_, _, rfl, .inl ⟨fault, rfl, rfl⟩⟩
  | ok texts =>
    dsimp only
    rcases hrecords : recordsAmong texts with _ | ⟨record, _ | ⟨second, records⟩⟩
    · exact ⟨_, _, rfl, .inr (.inl ⟨texts, rfl, hrecords, rfl⟩)⟩
    · obtain ⟨text, htext, -⟩ := (publishes_iff htxt).1 hrecords
      exact absurd htext (h text)
    · exact ⟨_, _, rfl, .inr (.inr ⟨texts, rfl, by simp [hrecords], rfl⟩)⟩

/-- The step for a domain without a single policy needs no level below it, and is the same for
every sender. -/
theorem checkDomain_eq_of_not_publishes {ip' : Ip.Address} {levels' : Nat}
    (h : ∀ text, ¬ Publishes dns domain text) :
    checkDomain dns ip' (levels' + 1) domain = checkDomain dns ip (levels + 1) domain := by
  unfold checkDomain
  cases htxt : dns.txt domain with
  | error fault => rfl
  | ok texts =>
    dsimp only
    rcases hrecords : recordsAmong texts with _ | ⟨record, _ | ⟨second, records⟩⟩
    · rfl
    · obtain ⟨text, htext, -⟩ := (publishes_iff htxt).1 hrecords
      exact absurd htext (h text)
    · rfl

theorem domainJudged_iff {v : Verdict} :
    DomainJudged dns ip (GivenBy (checkDomain dns ip levels)) domain v ↔
      v = (checkDomain dns ip (levels + 1) domain).1 := by
  have hvisit := noPassAtLimit_checkDomain dns ip levels
  constructor
  · intro h
    cases h with
    | lookupFailed htxt => exact (checkDomain_of_error htxt).symm
    | noPolicy htxt htexts =>
      exact (checkDomain_of_none htxt (recordsAmong_eq_nil_iff.2 htexts)).symm
    | severalPolicies htxt hfirst hsecond =>
      refine (checkDomain_of_several htxt ?_).symm
      exact two_le_length_recordsAmong_iff.2 ⟨_, _, _, _, _, rfl, hfirst, hsecond⟩
    | onePolicy htext hv =>
      simp only [checkDomain_of_publishes htext]
      exact (recordJudged_iff hvisit).1 hv
  · rintro rfl
    by_cases hpublishes : ∃ text, Publishes dns domain text
    · obtain ⟨text, htext⟩ := hpublishes
      simp only [checkDomain_of_publishes htext]
      exact .onePolicy htext ((recordJudged_iff hvisit).2 rfl)
    · obtain ⟨v, line, hstep, hv⟩ :=
        checkDomain_of_not_publishes ip levels (not_exists.1 hpublishes)
      rw [hstep]
      rcases hv with ⟨fault, htxt, rfl⟩ | ⟨texts, htxt, hnone, rfl⟩ | ⟨texts, htxt, hseveral, rfl⟩
      · exact .lookupFailed htxt
      · exact .noPolicy htxt (recordsAmong_eq_nil_iff.1 hnone)
      · obtain ⟨before, first, between, second, after, rfl, hfirst, hsecond⟩ :=
          two_le_length_recordsAmong_iff.1 hseveral
        exact .severalPolicies htxt hfirst hsecond

end Domains

/-- The rules give the verdict of the evaluation with the levels that are left. -/
theorem judged_eq_givenBy (dns : Dns.Resolver) (ip : Ip.Address) (depth : Nat) :
    Judged dns ip depth = GivenBy (checkDomain dns ip (maxDepth - depth)) := by
  induction hlevels : maxDepth - depth generalizing depth with
  | zero =>
    have hdeep : ¬ depth < maxDepth := by omega
    rw [Judged, if_neg hdeep]
    rfl
  | succ levels ih =>
    have hdepth : depth < maxDepth := by omega
    funext domain v
    rw [Judged, if_pos hdepth, ih (depth + 1) (by omega)]
    exact propext domainJudged_iff

/-- At every depth of nesting the evaluation of a domain, and of a text as its record, gives the
one verdict that the rules allow. -/
theorem judged_iff_evaluated (dns : Dns.Resolver) (ip : Ip.Address) (depth : Nat)
    (domain : String) :
    (∀ v, Judged dns ip depth domain v ↔
        (checkDomain dns ip (maxDepth - depth) domain).1 = v) ∧
      ∀ text v, TextJudged dns ip (Judged dns ip (depth + 1)) domain text v ↔
        (checkRecord dns ip (checkDomain dns ip (maxDepth - (depth + 1))) domain text).1 = v := by
  constructor
  · intro v
    rw [judged_eq_givenBy]
    exact eq_comm
  · intro text v
    rw [judged_eq_givenBy, textJudged_iff (noPassAtLimit_checkDomain dns ip _)]
    exact eq_comm

end SpamVerdict.Spf
