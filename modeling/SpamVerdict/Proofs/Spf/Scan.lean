import SpamVerdict.Spf.Evaluation
set_option autoImplicit false

/-!
# How look-ups and records are scanned (SPEC_FULL §4.3)

Two loops stop early: the one over the exchangers of a name and the one over the tokens of a
record.  This module says once what each of them comes to.  `hostsMatch` finds the sending address
exactly when some host has it (`hostsMatch_iff`), and `scan` ends at the first token that settles
the verdict (`scan_settled`) or, when no token does, with the last redirect (`scan_open`).

SPEC_FULL §4.3 puts the rule for the tokens as "the first match wins".  All other modules on
evaluations use the loops through these statements.
-/

namespace SpamVerdict.Spf

/-! ## Look-ups -/

/-- The sending address is among the addresses of a name. -/
def HasAddress (dns : Dns.Resolver) (ip : Ip.Address) (name : String) : Prop :=
  name ≠ "" ∧ ∃ addresses, dns.address ip.family name = .ok addresses ∧ ip ∈ addresses

/-- The sending address is among the addresses of some mail exchanger of a name. -/
def HasExchanger (dns : Dns.Resolver) (ip : Ip.Address) (name : String) : Prop :=
  name ≠ "" ∧ ∃ hosts, dns.mx name = .ok hosts ∧
    ∃ host ∈ hosts, HasAddress dns ip (Text.trimDots host)

section Lookups

variable (dns : Dns.Resolver) (ip : Ip.Address) (domain : String)

theorem addressMatches_iff (name : String) :
    (addressMatches dns ip domain name).1 = true ↔ HasAddress dns ip name := by
  unfold addressMatches HasAddress
  by_cases hname : name = ""
  · simp [hname]
  · have hempty : name.isEmpty = false := by simpa using hname
    cases haddress : dns.address ip.family name with
    | error fault => simp [hempty]
    | ok addresses => simp [hempty, hname]

theorem hostsMatch_iff (hosts : List String) :
    (hostsMatch dns ip domain hosts).1 = true ↔
      ∃ host ∈ hosts, HasAddress dns ip (Text.trimDots host) := by
  induction hosts with
  | nil => simp [hostsMatch]
  | cons host hosts ih =>
    have hhost := addressMatches_iff dns ip domain (Text.trimDots host)
    unfold hostsMatch
    by_cases hname : (Text.trimDots host).isEmpty = true
    · -- A host without a name is no exchanger: it is passed over and has no address.
      have hnone : ¬ HasAddress dns ip (Text.trimDots host) := fun h => h.1 (by simpa using hname)
      simp [hname, hnone, ih]
    · cases hfound : (addressMatches dns ip domain (Text.trimDots host)).1 with
      | true => simp [hname, hfound, hhost.1 hfound]
      | false =>
        have hnone : ¬ HasAddress dns ip (Text.trimDots host) := by
          rw [← hhost, hfound]; simp
        simp [hname, hfound, hnone, ih]

theorem mxMatches_iff (name : String) :
    (mxMatches dns ip domain name).1 = true ↔ HasExchanger dns ip name := by
  unfold mxMatches HasExchanger
  by_cases hname : name = ""
  · simp [hname]
  · have hempty : name.isEmpty = false := by simpa using hname
    cases hmx : dns.mx name with
    | error fault => simp [hempty]
    | ok hosts => simp [hempty, hname, hostsMatch_iff]

end Lookups

/-! ## Attempts -/

/-- The test of a mechanism that looks at no other policy. -/
def directTest (dns : Dns.Resolver) (ip : Ip.Address) (domain : String) : Mechanism → Bool × Log
  | .all => (true, [])
  | .ip4 block => (ip.inBlock block, [])
  | .ip6 block => (ip.inBlock block, [])
  | .includes _ => (false, [])
  | .a target => addressMatches dns ip domain (target.getD domain)
  | .mx target => mxMatches dns ip domain (target.getD domain)

/-- What a mechanism by itself may log: trace lines and queries other than for text records. -/
inductive Event.OfLookup : Event → Prop where
  | noted (line : String) : OfLookup (.noted line)
  | address (family : Ip.Family) (name : String) : OfLookup (.asked (.address family name))
  | mx (name : String) : OfLookup (.asked (.mx name))

section Events

variable (dns : Dns.Resolver) (ip : Ip.Address) (domain : String)

theorem addressMatches_ofLookup (name : String) :
    ∀ event ∈ (addressMatches dns ip domain name).2, event.OfLookup := by
  have hnoted : ∀ line, ∀ event ∈ [Event.noted line], event.OfLookup :=
    fun line => List.forall_mem_singleton.2 (.noted line)
  have hasked : Event.OfLookup (.asked (.address ip.family name)) := .address _ name
  unfold addressMatches
  dsimp only
  split
  · exact hnoted _
  · split
    · exact List.forall_mem_cons.2 ⟨hasked, hnoted _⟩
    · exact List.forall_mem_cons.2 ⟨hasked, hnoted _⟩

theorem hostsMatch_ofLookup (hosts : List String) :
    ∀ event ∈ (hostsMatch dns ip domain hosts).2, event.OfLookup := by
  induction hosts with
  | nil => exact List.forall_mem_nil _
  | cons host hosts ih =>
    have hhost := addressMatches_ofLookup dns ip domain (Text.trimDots host)
    unfold hostsMatch
    dsimp only
    split
    · exact ih
    · split
      · exact hhost
      · exact List.forall_mem_append.2 ⟨hhost, ih⟩

theorem mxMatches_ofLookup (name : String) :
    ∀ event ∈ (mxMatches dns ip domain name).2, event.OfLookup := by
  unfold mxMatches
  dsimp only
  split
  · exact List.forall_mem_singleton.2 (.noted _)
  · split
    · exact List.forall_mem_cons.2 ⟨.mx name, List.forall_mem_singleton.2 (.noted _)⟩
    · next hosts _ =>
      have hhosts := hostsMatch_ofLookup dns ip domain hosts
      exact List.forall_mem_cons.2 ⟨.mx name, List.forall_mem_cons.2 ⟨.noted _, hhosts⟩⟩

theorem directTest_ofLookup (m : Mechanism) :
    ∀ event ∈ (directTest dns ip domain m).2, event.OfLookup := by
  cases m with
  | a target => exact addressMatches_ofLookup dns ip domain _
  | mx target => exact mxMatches_ofLookup dns ip domain _
  | _ => simp [directTest]

end Events

/-- The ways in which a term can be tried. -/
inductive Term.Kind : Term → Prop where
  | redirect (target : String) : Kind (.redirect target)
  | unsupported (body : String) : Kind (.unsupported body)
  | emptyInclude (q : Qualifier) : Kind (.directive q (.includes ""))
  | includes (q : Qualifier) {target : String} (htarget : target ≠ "") :
      Kind (.directive q (.includes target))
  /-- The mechanism enters no other domain. -/
  | direct (q : Qualifier) {m : Mechanism} (hm : ∀ target, m ≠ .includes target) :
      Kind (.directive q m)

/-- Every token is tried in one of these ways. -/
theorem exists_kind (token : List Char) : ∃ term, Term.ofChars token = term ∧ term.Kind := by
  refine ⟨_, rfl, ?_⟩
  cases Term.ofChars token with
  | redirect target => exact .redirect target
  | unsupported body => exact .unsupported body
  | directive q m =>
    cases m with
    | includes target =>
      by_cases htarget : target = ""
      · subst htarget
        exact .emptyInclude q
      · exact .includes q htarget
    | _ => exact .direct q fun _ h => nomatch h

section Attempts

variable {dns : Dns.Resolver} {ip : Ip.Address} {visit : String → Step} {domain record : String}
  {token : List Char}

theorem attempt_of_redirect {target : String} (hterm : Term.ofChars token = .redirect target) :
    attempt dns ip visit domain record token = (none, []) := by
  simp [attempt, hterm]

theorem attempt_of_unsupported {body : String} (hterm : Term.ofChars token = .unsupported body) :
    attempt dns ip visit domain record token =
      (some (.faulty domain .permError (some record) (.unsupported body)),
        [.noted ("domain=" ++ domain ++ " unsupported_mechanism=" ++ body)]) := by
  simp [attempt, hterm]

theorem attempt_of_emptyInclude {q : Qualifier}
    (hterm : Term.ofChars token = .directive q (.includes "")) :
    attempt dns ip visit domain record token =
      (some (.faulty domain .permError (some record) .emptyInclude), []) := by
  simp [attempt, hterm, tryMechanism]

/-- An `include` visits its target first and then takes one of three ways. -/
theorem attempt_of_includes {q : Qualifier} {target : String}
    (hterm : Term.ofChars token = .directive q (.includes target)) (htarget : target ≠ "") :
    attempt dns ip visit domain record token =
      let log := .noted ("domain=" ++ domain ++ " include=" ++ target) :: (visit target).2
      if (visit target).1.hitLimit = true then
        (some (.faulty domain .permError (some record) .recursionLimit), log)
      else if (visit target).1.raw = .pass then
        (some (.plain domain q.result (some record)), log ++ [.noted (matchedLine domain token q)])
      else (none, log) := by
  cases hlimit : (visit target).1.hitLimit with
  | true => simp [attempt, hterm, tryMechanism, htarget, hlimit]
  | false =>
    by_cases hpass : (visit target).1.raw = .pass <;>
      simp [attempt, hterm, tryMechanism, htarget, hlimit, hpass]

theorem tryMechanism_of_direct {m : Mechanism} (hm : ∀ target, m ≠ .includes target) :
    tryMechanism dns ip visit domain record m =
      (.tested (directTest dns ip domain m).1, (directTest dns ip domain m).2) := by
  cases m with
  | includes target => exact absurd rfl (hm target)
  | _ => rfl

theorem attempt_of_direct {q : Qualifier} {m : Mechanism}
    (hterm : Term.ofChars token = .directive q m) (hm : ∀ target, m ≠ .includes target) :
    attempt dns ip visit domain record token =
      if (directTest dns ip domain m).1 = true then
        (some (.plain domain q.result (some record)),
          (directTest dns ip domain m).2 ++ [.noted (matchedLine domain token q)])
      else (none, (directTest dns ip domain m).2) := by
  cases hfound : (directTest dns ip domain m).1 <;>
    simp [attempt, hterm, tryMechanism_of_direct hm, hfound]

/-- The queries that a term leads to, whatever it settles. -/
def queriesOf (dns : Dns.Resolver) (ip : Ip.Address) (visit : String → Step) (domain : String) :
    Term → List Dns.Query
  | .redirect _ => []
  | .unsupported _ => []
  | .directive _ (.includes target) => if target = "" then [] else (visit target).2.queries
  | .directive _ m => (directTest dns ip domain m).2.queries

theorem queriesOf_direct {q : Qualifier} {m : Mechanism} (hm : ∀ target, m ≠ .includes target) :
    queriesOf dns ip visit domain (.directive q m) = (directTest dns ip domain m).2.queries := by
  cases m with
  | includes target => exact absurd rfl (hm target)
  | _ => rfl

theorem attempt_queries (token : List Char) :
    (attempt dns ip visit domain record token).2.queries =
      queriesOf dns ip visit domain (Term.ofChars token) := by
  obtain ⟨term, hterm, hkind⟩ := exists_kind token
  rw [hterm]
  cases hkind with
  | redirect target => rw [attempt_of_redirect hterm]; rfl
  | unsupported body => rw [attempt_of_unsupported hterm]; rfl
  | emptyInclude q => rw [attempt_of_emptyInclude hterm]; rfl
  | includes q htarget =>
    simp only [attempt_of_includes hterm htarget, queriesOf, if_neg htarget]
    split
    · simp
    · split <;> simp
  | direct q hm =>
    rw [attempt_of_direct hterm hm, queriesOf_direct hm]
    split <;> simp

end Attempts

/-! ### Two tables side by side -/

section Congruence

variable {x y : Dns.Resolver} {ip : Ip.Address} {visit visit' : String → Step}
  {domain record : String}

/-- A mechanism by itself tells two tables apart only by who has the sending address. -/
theorem directTest_eq_of_iff (haddress : ∀ name, HasAddress x ip name ↔ HasAddress y ip name)
    (hmx : ∀ name, HasExchanger x ip name ↔ HasExchanger y ip name) (m : Mechanism) :
    (directTest x ip domain m).1 = (directTest y ip domain m).1 := by
  cases m with
  | a target =>
    rw [Bool.eq_iff_iff]
    exact (addressMatches_iff x ip domain _).trans
      ((haddress _).trans (addressMatches_iff y ip domain _).symm)
  | mx target =>
    rw [Bool.eq_iff_iff]
    exact (mxMatches_iff x ip domain _).trans
      ((hmx _).trans (mxMatches_iff y ip domain _).symm)
  | _ => rfl

/-- What a token settles depends on no more than the test of its mechanism and, of the verdicts
one level deeper, on whether they pass and whether they hit the limit. -/
theorem attempt_verdict_congr {ip' : Ip.Address} {token : List Char}
    (hdirect : ∀ q m, Term.ofChars token = .directive q m →
      (directTest x ip domain m).1 = (directTest y ip' domain m).1)
    (hlimit : ∀ target, (visit target).1.hitLimit = (visit' target).1.hitLimit)
    (hpass : ∀ target, (visit target).1.raw = .pass ↔ (visit' target).1.raw = .pass) :
    (attempt x ip visit domain record token).1 = (attempt y ip' visit' domain record token).1 := by
  obtain ⟨term, hterm, hkind⟩ := exists_kind token
  cases hkind with
  | redirect target => rw [attempt_of_redirect hterm, attempt_of_redirect hterm]
  | unsupported body => rw [attempt_of_unsupported hterm, attempt_of_unsupported hterm]
  | emptyInclude q => rw [attempt_of_emptyInclude hterm, attempt_of_emptyInclude hterm]
  | includes q htarget =>
    simp only [attempt_of_includes hterm htarget, hlimit, hpass]
    split
    · rfl
    · split <;> rfl
  | direct q hm =>
    rw [attempt_of_direct hterm hm, attempt_of_direct hterm hm, hdirect q _ hterm]
    split <;> rfl

theorem queriesOf_congr
    (hdirect : ∀ m, (directTest x ip domain m).2.queries = (directTest y ip domain m).2.queries)
    (hvisit : ∀ target, (visit target).2.queries = (visit' target).2.queries) (term : Term) :
    queriesOf x ip visit domain term = queriesOf y ip visit' domain term := by
  cases term with
  | directive q m =>
    cases m with
    | includes target => rw [queriesOf, queriesOf, hvisit target]
    | _ => exact hdirect _
  | _ => rfl

end Congruence

/-! ## Tokens -/

/-- The target of the last redirect among terms. -/
def lastRedirect (terms : List Term) : Option String :=
  (terms.filterMap Term.redirect?).getLast?

@[simp] theorem lastRedirect_nil : lastRedirect [] = none := rfl

theorem lastRedirect_cons (term : Term) (terms : List Term) :
    lastRedirect (term :: terms) = (lastRedirect terms).or term.redirect? := by
  unfold lastRedirect
  cases hterm : term.redirect? with
  | none => simp [hterm]
  | some target => simp [hterm, List.getLast?_cons]

/-- After a redirect the verdict is that of its target, with the target in front of the chain. -/
theorem fallThrough_of_redirect (visit : String → Step) (domain record : String) {target : String}
    (htarget : target ≠ "") :
    fallThrough visit domain record (some target) =
      ({ (visit target).1 with redirectChain := target :: (visit target).1.redirectChain },
        .noted ("domain=" ++ domain ++ " redirect=" ++ target) :: (visit target).2) := by
  simp [fallThrough, htarget]

section Scan

variable {dns : Dns.Resolver} {ip : Ip.Address} {visit : String → Step} {domain record : String}

/-- Tokens up to one that settles the verdict are tried, and none after it. -/
theorem scan_settled {before after : List (List Char)} {token : List Char}
    {redirect : Option String} {v : Verdict}
    (hbefore : ∀ t ∈ before, (attempt dns ip visit domain record t).1 = none)
    (htoken : (attempt dns ip visit domain record token).1 = some v) :
    scan dns ip visit domain record redirect (before ++ token :: after) =
      (v, before.flatMap (fun t => (attempt dns ip visit domain record t).2) ++
        (attempt dns ip visit domain record token).2) := by
  induction before generalizing redirect with
  | nil =>
    rw [List.nil_append, scan]
    cases hattempt : attempt dns ip visit domain record token with
    | mk verdict log =>
      obtain rfl : verdict = some v := by simpa [hattempt] using htoken
      simp
  | cons t before ih =>
    rw [List.cons_append, scan]
    cases hattempt : attempt dns ip visit domain record t with
    | mk verdict log =>
      obtain rfl : verdict = none := by simpa [hattempt] using hbefore t List.mem_cons_self
      have hrest : ∀ t ∈ before, (attempt dns ip visit domain record t).1 = none :=
        fun t ht => hbefore t (List.mem_cons_of_mem _ ht)
      simp [hattempt, ih hrest]

/-- Where no token settles the verdict, all are tried and the last redirect decides. -/
theorem scan_open {tokens : List (List Char)} {redirect : Option String}
    (htokens : ∀ t ∈ tokens, (attempt dns ip visit domain record t).1 = none) :
    scan dns ip visit domain record redirect tokens =
      ((fallThrough visit domain record
          ((lastRedirect (tokens.map Term.ofChars)).or redirect)).1,
        tokens.flatMap (fun t => (attempt dns ip visit domain record t).2) ++
          (fallThrough visit domain record
            ((lastRedirect (tokens.map Term.ofChars)).or redirect)).2) := by
  induction tokens generalizing redirect with
  | nil => simp [scan]
  | cons t tokens ih =>
    rw [scan]
    cases hattempt : attempt dns ip visit domain record t with
    | mk verdict log =>
      obtain rfl : verdict = none := by simpa [hattempt] using htokens t List.mem_cons_self
      have hrest : ∀ t ∈ tokens, (attempt dns ip visit domain record t).1 = none :=
        fun t ht => htokens t (List.mem_cons_of_mem _ ht)
      simp [hattempt, ih hrest, lastRedirect_cons, Option.or_assoc]

/-- Either no token settles the verdict, or there is a first one that does. -/
theorem open_or_settled (dns : Dns.Resolver) (ip : Ip.Address) (visit : String → Step)
    (domain record : String) (tokens : List (List Char)) :
    (∀ t ∈ tokens, (attempt dns ip visit domain record t).1 = none) ∨
      ∃ before token after v, tokens = before ++ token :: after ∧
        (∀ t ∈ before, (attempt dns ip visit domain record t).1 = none) ∧
          (attempt dns ip visit domain record token).1 = some v := by
  cases hfirst : tokens.findSome? fun t => (attempt dns ip visit domain record t).1 with
  | none => exact .inl (List.findSome?_eq_none_iff.1 hfirst)
  | some v =>
    obtain ⟨before, token, after, htokens, htoken, hbefore⟩ :=
      List.findSome?_eq_some_iff.1 hfirst
    exact .inr ⟨before, token, after, v, htokens, hbefore, htoken⟩

end Scan

/-- Scans that settle the same verdict at every token end in related verdicts if the verdicts of
their redirects are related. -/
theorem scan_verdict_congr {x y : Dns.Resolver} {ip ip' : Ip.Address}
    {visit visit' : String → Step} {domain record : String} {P : Verdict → Verdict → Prop}
    (hsame : ∀ v, P v v)
    (hthrough : ∀ target, P (fallThrough visit domain record target).1
      (fallThrough visit' domain record target).1)
    {tokens : List (List Char)}
    (hattempt : ∀ token ∈ tokens, (attempt x ip visit domain record token).1 =
      (attempt y ip' visit' domain record token).1) (redirect : Option String) :
    P (scan x ip visit domain record redirect tokens).1
      (scan y ip' visit' domain record redirect tokens).1 := by
  rcases open_or_settled x ip visit domain record tokens with
    hopen | ⟨before, token, after, v, rfl, hbefore, htoken⟩
  · have hopen' : ∀ t ∈ tokens, (attempt y ip' visit' domain record t).1 = none :=
      fun t ht => (hattempt t ht).symm.trans (hopen t ht)
    rw [scan_open hopen, scan_open hopen']
    exact hthrough _
  · obtain ⟨hfront, hback⟩ := List.forall_mem_append.1 hattempt
    have hbefore' : ∀ t ∈ before, (attempt y ip' visit' domain record t).1 = none :=
      fun t ht => (hfront t ht).symm.trans (hbefore t ht)
    have htoken' : (attempt y ip' visit' domain record token).1 = some v :=
      (hback token List.mem_cons_self).symm.trans htoken
    rw [scan_settled hbefore htoken, scan_settled hbefore' htoken']
    exact hsame v

end SpamVerdict.Spf
