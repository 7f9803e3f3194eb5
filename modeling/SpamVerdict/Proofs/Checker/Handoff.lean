import SpamVerdict.Proofs.Checker.Steps
set_option autoImplicit false

/-!
# From a check to the ticket (SPEC_FULL §14.6)

A check by the variables of a ticket leaves an outcome behind, and the ticket that is created for
the message takes it away.  Which outcomes wait is told here from the history alone: the latest
check of a message waits until a ticket claims it (`Unclaimed`).  What the checker remembers is
kept in step with that (`recalls_step`), so a created ticket is answered as the history says and
the number of pending checks is the number of messages whose outcome waits (`handoff`).

By SPEC_FULL §14.6 an outcome also expires.  So the statement is about three things: runs in which
nothing has expired (`Timely`), numbers that name no ticket, and checkers that remember nothing at
all.  Rows are kept in memory, so that no write is refused for a reason of the store.
-/

namespace SpamVerdict.Checker

/-! ## Histories -/

/-- A check of the message with an id, by variables that hold a header block. -/
def Checks (mid : String) (e : Entry Step Answer) : Prop :=
  mid ≠ "" ∧ ∃ peers vars, e.asked = .check peers vars ∧ Mail.varText vars "mid" = mid ∧
    Text.trim (Mail.varText vars "header") ≠ ""

/-- A ticket that was created for the message with an id and got its row. -/
def Claims (mid : String) (e : Entry Step Answer) : Prop :=
  ∃ ticket email row, e.asked = .created ticket email mid ∧ e.answer = .row (some row)

/-- The latest check of a message, if no ticket has claimed its outcome since. -/
def Unclaimed (mid : String) : History → Entry Step Answer → Prop :=
  Latest (Checks mid) fun e => Checks mid e ∨ Claims mid e

/-- At a time, no outcome that is unclaimed has waited for a whole lifetime. -/
def InTime (lifetime : Nat) (h : History) (now : Instant) : Prop :=
  ∀ mid e, Unclaimed mid h e → now - e.time < lifetime

/-- At no step of a history an outcome had waited for a whole lifetime. -/
def Timely (lifetime : Nat) (h : History) : Prop :=
  Throughout (fun before e => InTime lifetime before e.time) h

/-! ## What is remembered -/

/-- What is remembered of a check. -/
def Remembered.Of (r : Remembered) (e : Entry Step Answer) : Prop :=
  ∃ o vars log, e.answer = .checked o vars log ∧ r = ⟨o.sender, o.decision, e.time⟩

/-- What a checker remembers of a message is what the history says. -/
inductive Recalls (mid : String) (h : History) : Option Remembered → Prop where
  | nothing (hnone : ∀ e, ¬ Unclaimed mid h e) : Recalls mid h none
  | outcome {r : Remembered} {e : Entry Step Answer} (he : Unclaimed mid h e) (hr : r.Of e) :
      Recalls mid h (some r)

section Histories

variable {mid : String} {h : History} {x : Entry Step Answer} {r : Remembered}

theorem not_checks_of_ne (hx : ∀ peers vars, x.asked ≠ .check peers vars) : ¬ Checks mid x := by
  rintro ⟨-, peers, vars, hasked, -⟩
  exact hx peers vars hasked

theorem not_claims_of_ne (hx : ∀ ticket email, x.asked ≠ .created ticket email mid) :
    ¬ Claims mid x := by
  rintro ⟨ticket, email, -, hasked, -⟩
  exact hx ticket email hasked

theorem not_claims_of_no_row (hx : ∀ row, x.answer ≠ .row (some row)) : ¬ Claims mid x := by
  rintro ⟨-, -, row, -, hanswer⟩
  exact hx row hanswer

theorem checks_check_iff {now : Instant} {peers : Http.Peers} {vars : Mail.Vars} {a : Answer} :
    Checks mid ⟨now, .check peers vars, a⟩ ↔
      ((Mail.Message.ofVars vars).mid = mid ∧ mid ≠ "") ∧
        (Mail.Message.ofVars vars).hasHeader = true := by
  have hheader : (Mail.Message.ofVars vars).hasHeader = true ↔
      Text.trim (Mail.varText vars "header") ≠ "" := by
    simp [Mail.Message.hasHeader, Mail.Message.ofVars]
  rw [hheader]
  constructor
  · rintro ⟨hne, _, _, hasked, hmid, htext⟩
    cases hasked
    exact ⟨⟨hmid, hne⟩, htext⟩
  · rintro ⟨⟨hmid, hne⟩, htext⟩
    exact ⟨hne, peers, vars, rfl, hmid, htext⟩

theorem recalls_of_checks (hx : Checks mid x) (hr : r.Of x) : Recalls mid (h ++ [x]) (some r) :=
  .outcome (latest_snoc_iff.2 (.inl ⟨hx, rfl⟩)) hr

theorem recalls_of_claims (hx : Claims mid x) : Recalls mid (h ++ [x]) none := by
  refine .nothing fun e he => ?_
  rcases latest_snoc_iff.1 he with ⟨hchecks, -⟩ | ⟨hnot, -⟩
  · obtain ⟨-, peers, vars, hasked, -⟩ := hchecks
    obtain ⟨ticket, email, row, hasked', -⟩ := hx
    rw [hasked] at hasked'
    cases hasked'
  · exact hnot (.inr hx)

theorem recalls_of_neither (hchecks : ¬ Checks mid x) (hclaims : ¬ Claims mid x)
    {found : Option Remembered} (hfound : Recalls mid h found) :
    Recalls mid (h ++ [x]) found := by
  have hkept : ∀ e, Unclaimed mid (h ++ [x]) e ↔ Unclaimed mid h e := by
    intro e
    refine latest_snoc_iff.trans ⟨?_, fun he => .inr ⟨not_or.2 ⟨hchecks, hclaims⟩, he⟩⟩
    rintro (⟨hx, -⟩ | ⟨-, he⟩)
    · exact absurd hx hchecks
    · exact he
  cases hfound with
  | nothing hnone => exact .nothing fun e he => hnone e ((hkept e).1 he)
  | outcome he hr => exact .outcome ((hkept _).2 he) hr

theorem unclaimed_iff_of_recalls {found : Option Remembered} (hfound : Recalls mid h found) :
    (∃ e, Unclaimed mid h e) ↔ ∃ r, found = some r := by
  cases hfound with
  | nothing hnone => simpa using hnone
  | @outcome r e he => exact ⟨fun _ => ⟨r, rfl⟩, fun _ => ⟨e, he⟩⟩

/-- There is one latest check only. -/
theorem Unclaimed.of_eq {e : Entry Step Answer} (he : Unclaimed mid h e)
    (hfound : Recalls mid h (some r)) : r.Of e := by
  cases hfound with
  | outcome he' hr =>
    obtain rfl := Latest.unique (fun _ => Or.inl) he he'
    exact hr

end Histories

/-! ## Steps -/

section Steps

variable {c : Checker} {s : State Audit.Store} {h : History} {now : Instant}

/-- In time, everything that is remembered is live. -/
theorem get?_live_of_inTime (hrecalls : ∀ mid, Recalls mid h (s.recent.get? mid))
    (htime : InTime c.lifetime h now) (mid : String) :
    (s.live c now).get? mid = s.recent.get? mid := by
  rw [State.get?_live]
  have hmid := hrecalls mid
  generalize s.recent.get? mid = found at hmid
  cases hmid with
  | nothing => rfl
  | @outcome r e he hr =>
    obtain ⟨o, vars, log, -, rfl⟩ := hr
    have hlive : c.isLive now ⟨o.sender, o.decision, e.time⟩ = true :=
      decide_eq_true (htime mid e he)
    rw [Option.filter_some, if_pos hlive]

theorem get?_remember (o : Outcome) (mid : String)
    (hlive : (s.live c now).get? mid = s.recent.get? mid) :
    (s.remember c now o).recent.get? mid =
      if o.mid = mid ∧ mid ≠ "" then some ⟨o.sender, o.decision, now⟩
      else s.recent.get? mid := by
  unfold State.remember
  by_cases hempty : o.mid.isEmpty = true
  · have hnone : ¬ (o.mid = mid ∧ mid ≠ "") := by
      rintro ⟨rfl, hne⟩
      exact hne (String.isEmpty_iff.1 hempty)
    rw [if_pos hempty, if_neg hnone]
  · rw [if_neg hempty]
    by_cases hmid : o.mid = mid
    · have hne : mid ≠ "" := by
        rintro rfl
        exact hempty (String.isEmpty_iff.2 hmid)
      rw [if_pos ⟨hmid, hne⟩, Ledger.get?_put, if_pos hmid]
    · rw [if_neg fun hm => hmid hm.1, Ledger.get?_put, if_neg hmid, hlive]

theorem recalls_check (hrecalls : ∀ mid, Recalls mid h (s.recent.get? mid))
    (htime : InTime c.lifetime h now) (peers : Http.Peers) (vars : Mail.Vars) (mid : String) :
    Recalls mid (h ++ [⟨now, .check peers vars, (c.step s now (.check peers vars)).1⟩])
      ((c.step s now (.check peers vars)).2.recent.get? mid) := by
  have hclaims : ∀ a, ¬ Claims mid ⟨now, .check peers vars, a⟩ :=
    fun _ => not_claims_of_ne fun _ _ => nofun
  cases hheader : (Mail.Message.ofVars vars).hasHeader with
  | false =>
    have hchecks : ¬ Checks mid ⟨now, .check peers vars, .unchecked⟩ := by
      rw [checks_check_iff, hheader]
      exact fun hx => Bool.false_ne_true hx.2
    rw [step_check_of_no_header c s now hheader]
    exact recalls_of_neither hchecks (hclaims _) (hrecalls mid)
  | true =>
    rw [step_check_of_header c s now hheader]
    dsimp only
    rw [get?_remember _ mid (get?_live_of_inTime hrecalls htime mid)]
    have hid : (c.check s.policy peers (.ofVars vars)).mid = (Mail.Message.ofVars vars).mid := rfl
    rw [hid]
    by_cases hmid : (Mail.Message.ofVars vars).mid = mid ∧ mid ≠ ""
    · rw [if_pos hmid]
      exact recalls_of_checks (checks_check_iff.2 ⟨hmid, hheader⟩) ⟨_, _, _, rfl, rfl⟩
    · rw [if_neg hmid]
      exact recalls_of_neither (fun hx => hmid (checks_check_iff.1 hx).1) (hclaims _)
        (hrecalls mid)

theorem recalls_created (hrecalls : ∀ mid, Recalls mid h (s.recent.get? mid))
    (htime : InTime c.lifetime h now) (ticket : Ticket) (email claimed mid : String) :
    Recalls mid
      (h ++
        [⟨now, .created ticket email claimed, (c.step s now (.created ticket email claimed)).1⟩])
      ((c.step s now (.created ticket email claimed)).2.recent.get? mid) := by
  have hchecks : ∀ a, ¬ Checks mid ⟨now, .created ticket email claimed, a⟩ :=
    fun _ => not_checks_of_ne fun _ _ => nofun
  by_cases hticket : ticket ≤ 0
  · rw [step_created_of_nonpos c s now email claimed hticket]
    refine recalls_of_neither (hchecks _) (not_claims_of_no_row ?_) (hrecalls mid)
    intro row hrow
    cases hrow
  · have hpos := Int.not_le.1 hticket
    cases hfound : (s.live c now).get? claimed with
    | none =>
      rw [step_created_of_none c s now email hpos hfound]
      refine recalls_of_neither (hchecks _) (not_claims_of_no_row ?_) (hrecalls mid)
      intro row hrow
      cases hrow
    | some r =>
      rw [step_created_of_some c s now email hpos hfound]
      dsimp only
      rw [Ledger.get?_erase]
      by_cases hmid : claimed = mid
      · rw [if_pos hmid, hmid]
        exact recalls_of_claims ⟨ticket, email, _, rfl, rfl⟩
      · rw [if_neg hmid, get?_live_of_inTime hrecalls htime mid]
        refine recalls_of_neither (hchecks _) (not_claims_of_ne ?_) (hrecalls mid)
        intro ticket' email' hasked
        cases hasked
        exact hmid rfl

/-- Every step keeps what is remembered in line with the history. -/
theorem recalls_step (hrecalls : ∀ mid, Recalls mid h (s.recent.get? mid))
    (htime : InTime c.lifetime h now) (x : Step) (mid : String) :
    Recalls mid (h ++ [⟨now, x, (c.step s now x).1⟩]) ((c.step s now x).2.recent.get? mid) := by
  cases x with
  | check peers vars => exact recalls_check hrecalls htime peers vars mid
  | created ticket email claimed => exact recalls_created hrecalls htime ticket email claimed mid
  | _ =>
    rw [recent_step c s now (fun _ _ hx => by cases hx) fun _ _ _ hx => by cases hx]
    refine recalls_of_neither (not_checks_of_ne ?_) (not_claims_of_ne ?_) (hrecalls mid)
    · intro peers vars hasked
      cases hasked
    · intro ticket email hasked
      cases hasked

end Steps

/-! ## Runs -/

theorem recalls_run (c : Checker) (p : Policy) (steps : List (Instant × Step))
    (htimely : Timely c.lifetime (transcript c.step (.fresh p) steps)) (mid : String) :
    Recalls mid (transcript c.step (.fresh p) steps)
      ((c.run (.fresh p) steps).2.recent.get? mid) := by
  have hstart : Timely c.lifetime [] →
      ∀ mid, Recalls mid [] ((State.fresh p).recent.get? mid) :=
    fun _ _ => .nothing fun _ => not_latest_nil
  have hstep : ∀ (h : History) (s : State Audit.Store) (now : Instant) (x : Step),
      (Timely c.lifetime h → ∀ mid, Recalls mid h (s.recent.get? mid)) →
        Timely c.lifetime (h ++ [⟨now, x, (c.step s now x).1⟩]) →
          ∀ mid, Recalls mid (h ++ [⟨now, x, (c.step s now x).1⟩])
            ((c.step s now x).2.recent.get? mid) := by
    intro h s now x hrecalls htimely mid
    obtain ⟨hbefore, htime⟩ := throughout_snoc_iff.1 htimely
    exact recalls_step (hrecalls hbefore) htime x mid
  have hrun := transcript_induction
    (P := fun h (s : State Audit.Store) =>
      Timely c.lifetime h → ∀ mid, Recalls mid h (s.recent.get? mid))
    hstart hstep steps
  rw [run_eq]
  exact hrun htimely mid

theorem inTime_of_lt {lifetime now : Nat} (h : History) (hnow : now < lifetime) :
    InTime lifetime h now :=
  fun _ _ _ => Nat.lt_of_le_of_lt (Nat.sub_le _ _) hnow

/-- A run that is shorter than a lifetime is in time throughout. -/
theorem timely_of_times_lt {c : Checker} {s : State Audit.Store} {steps : List (Instant × Step)}
    (hsteps : ∀ x ∈ steps, x.1 < c.lifetime) : Timely c.lifetime (transcript c.step s steps) := by
  intro before e after heq
  have hmem : (e.time, e.asked) ∈ steps := by
    rw [← transcript_map c.step s steps, heq]
    simp
  exact inTime_of_lt before (hsteps _ hmem)

/-! ## Handing over -/

/-- What is written about a ticket that takes over an outcome. -/
def Carries (row : Audit.Row) (o : Outcome) (ticket : Ticket) (email : String) : Prop :=
  row.toFinding = {
    ticket
    email := if Text.trim email = "" then o.sender else Text.trim email
    isSpam := o.decision.wouldBlock
    contentScore := o.decision.contentScore
    reputation := o.decision.reputation
    spf := o.decision.spf.map Spf.Outcome.name }

/-- The answer to a ticket that is created for a message, and the state behind it, as the history
up to there demands. -/
structure HandsOver (h : History) (s : State Audit.Store) (ticket : Ticket) (email mid : String)
    (result : Answer × State Audit.Store) : Prop where
  /-- A row is the answer exactly if an outcome waits. -/
  row_iff : (∃ row, result.1 = .row (some row)) ↔ ∃ e, Unclaimed mid h e
  /-- The row carries the outcome of the latest check. -/
  carried : ∀ row e, result.1 = .row (some row) → Unclaimed mid h e →
    ∃ o vars log, e.answer = .checked o vars log ∧ Carries row o ticket email
  /-- The row is stored. -/
  stored : ∀ row, result.1 = .row (some row) → result.2.audit.lookup ticket = some row
  /-- For an unknown message nothing happens. -/
  unknown : (∀ e, ¬ Unclaimed mid h e) → result = (.row none, s)

theorem carries_rowOf {s : Audit.Store} {now : Instant} {r : Remembered}
    {e : Entry Step Answer} (hr : r.Of e) (ticket : Ticket) (email : String) :
    ∃ o vars log, e.answer = .checked o vars log ∧
      Carries (s.rowOf now (State.findingOf r ticket email)) o ticket email := by
  obtain ⟨o, vars, log, hanswer, rfl⟩ := hr
  refine ⟨o, vars, log, hanswer, ?_⟩
  simp only [Carries, Audit.Store.rowOf, State.findingOf, String.isEmpty_iff]

theorem handsOver_of_recalls {c : Checker} {s : State Audit.Store} {h : History} {now : Instant}
    (hrecalls : ∀ mid, Recalls mid h (s.recent.get? mid)) (htime : InTime c.lifetime h now)
    {ticket : Ticket} (hticket : 0 < ticket) (email mid : String) :
    HandsOver h s ticket email mid (c.step s now (.created ticket email mid)) := by
  have hlive := get?_live_of_inTime hrecalls htime mid
  have hmid := hrecalls mid
  have hwaits := unclaimed_iff_of_recalls hmid
  cases hfound : s.recent.get? mid with
  | none =>
    rw [hfound] at hlive hwaits
    rw [step_created_of_none c s now email hticket hlive]
    refine ⟨?_, fun _ _ hrow => (by cases hrow), fun _ hrow => (by cases hrow), fun _ => rfl⟩
    rw [hwaits]
    simp
  | some r =>
    rw [hfound] at hlive hwaits hmid
    rw [step_created_of_some c s now email hticket hlive]
    refine ⟨⟨fun _ => hwaits.2 ⟨r, rfl⟩, fun _ => ⟨_, rfl⟩⟩, ?_, ?_, ?_⟩
    · intro row e hrow he
      cases hrow
      exact carries_rowOf (he.of_eq hmid) ticket email
    · intro row hrow
      cases hrow
      exact (Ledger.get?_put _ _ _ _).trans (if_pos rfl)
    · intro hnone
      obtain ⟨e, he⟩ := hwaits.2 ⟨r, rfl⟩
      exact absurd he (hnone e)

/-- The messages whose outcome waits are the keys of what is live. -/
theorem pending_of_recalls {c : Checker} {s : State Audit.Store} {h : History} {now : Instant}
    (hrecalls : ∀ mid, Recalls mid h (s.recent.get? mid)) (htime : InTime c.lifetime h now) :
    ∃ ids : List String, ids.Nodup ∧ (∀ mid, mid ∈ ids ↔ ∃ e, Unclaimed mid h e) ∧
      s.pending c now = ids.length := by
  refine ⟨(s.live c now).entries.map (·.1), (s.live c now).nodup_keys, fun mid => ?_, ?_⟩
  · rw [Ledger.mem_keys_iff, get?_live_of_inTime hrecalls htime mid,
      unclaimed_iff_of_recalls (hrecalls mid)]
  · rw [List.length_map]
    rfl

/-- Without a lifetime nothing is ever live. -/
theorem live_of_lifetime_eq_zero {c : Checker} (hlifetime : c.lifetime = 0) (s : State Audit.Store)
    (now : Instant) : s.live c now = .empty := by
  refine Ledger.eq_of_entries_eq (List.filter_eq_nil_iff.2 fun e _ => ?_)
  simp [isLive, hlifetime]

/-- After every run in which no outcome waits for a whole lifetime, a ticket gets a row exactly if
the latest check of its message is unclaimed, and the row carries the outcome of that check; what
is pending are the messages with an unclaimed check.  A number that names no ticket changes
nothing, and without a lifetime there is never anything to hand over. -/
theorem handoff (c : Checker) (p : Policy) (steps : List (Instant × Step)) (now : Instant) :
    let h := transcript c.step (.fresh p) steps
    let s := (c.run (.fresh p) steps).2
    (Timely c.lifetime h → InTime c.lifetime h now →
        (∀ ticket email mid, 0 < ticket →
            HandsOver h s ticket email mid (c.step s now (.created ticket email mid))) ∧
          ∃ ids : List String, ids.Nodup ∧ (∀ mid, mid ∈ ids ↔ ∃ e, Unclaimed mid h e) ∧
            s.pending c now = ids.length) ∧
      (∀ ticket email mid, ticket ≤ 0 →
        ∃ failure, c.step s now (.created ticket email mid) = (.refused failure, s)) ∧
      (c.lifetime = 0 →
        (∀ ticket email mid, 0 < ticket →
            c.step s now (.created ticket email mid) = (.row none, s)) ∧
          s.pending c now = 0) := by
  intro h s
  refine ⟨fun htimely htime => ?_, fun ticket email mid hticket => ?_, fun hlifetime => ?_⟩
  · have hrecalls : ∀ mid, Recalls mid h (s.recent.get? mid) := recalls_run c p steps htimely
    exact ⟨fun ticket email mid hticket => handsOver_of_recalls hrecalls htime hticket email mid,
      pending_of_recalls hrecalls htime⟩
  · exact ⟨_, step_created_of_nonpos c s now email mid hticket⟩
  · have hlive := live_of_lifetime_eq_zero hlifetime s now
    refine ⟨fun ticket email mid hticket => ?_, ?_⟩
    · refine step_created_of_none c s now email hticket ?_
      rw [hlive]
      rfl
    · rw [State.pending, hlive]
      rfl

/-- A checker whose only provider never answers. -/
def relay : Checker := ⟨[.fixed (.failed Provider.contentName "unreachable")], none, usualLifetime⟩

/-- The variables of a ticket for a message from `sender@example.test`. -/
def relayedVars : Mail.Vars := [("email", .string "sender@example.test"),
  ("header", .string "Subject: hello"), ("mid", .string "<1@example.test>")]

/-- A number that names no ticket consumes nothing, and the ticket after it gets the row. -/
theorem handoff_relay :
    let steps := [(0, .check .unreachable relayedVars), (1000, .created 0 "" "<1@example.test>")]
    let s := (relay.run (.fresh .default) steps).2
    ∃ row o, (relay.step s 2000 (.created 42 " " "<1@example.test>")).1 = .row (some row) ∧
      Carries row o 42 " " ∧ row.email = "sender@example.test" := by
  intro steps s
  have htimes : ∀ x ∈ steps, x.1 < relay.lifetime := by decide
  obtain ⟨hhands, -⟩ := (handoff relay .default steps 2000).1 (timely_of_times_lt htimes)
    (inTime_of_lt _ (by decide))
  have hticket := hhands 42 " " "<1@example.test>" (by decide)
  have hwaits : Unclaimed "<1@example.test>" (transcript relay.step (.fresh .default) steps) _ :=
    ⟨[], _, rfl, ⟨by decide, _, _, rfl, by decide, by decide⟩, List.forall_mem_singleton.2 (by
      rintro (⟨-, _, _, hasked, -⟩ | ⟨_, _, _, -, hanswer⟩)
      · cases hasked
      · cases hanswer)⟩
  obtain ⟨row, hrow⟩ := hticket.row_iff.2 ⟨_, hwaits⟩
  obtain ⟨o, vars, log, hanswer, hcarries⟩ := hticket.carried row _ hrow hwaits
  have hsender : o.sender = "sender@example.test" := by
    cases hanswer
    rfl
  have hblank : Text.trim " " = "" := by decide
  refine ⟨row, o, hrow, hcarries, ?_⟩
  rw [show row.email = row.toFinding.email from rfl, hcarries]
  dsimp only
  rw [if_pos hblank, hsender]

end SpamVerdict.Checker
