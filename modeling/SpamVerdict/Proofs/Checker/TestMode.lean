import SpamVerdict.Proofs.Checker.Steps
set_option autoImplicit false

/-!
# Test mode (SPEC_FULL §4.5, §12)

In test mode a checker decides, remembers and records as ever, but it never blocks.  What the flag
may change is masked here, from the policy down to the answers; a step commutes with masking
(`step_masked`).  So two runs that differ in nothing but the flag give answers that differ in
nothing but what is masked (`testMode_enforces_only`).

SPEC_FULL §4.5 says that test mode "always scores and records but never enforces".  What is masked
is the flag itself, the decision field that is made of it, and the title of the line in the log
(§12); an audit store is given the same rows in both runs, whatever it makes of them.
-/

namespace SpamVerdict

/-- The policy without its test mode flag. -/
def Policy.masked (p : Policy) : Policy := { p with testMode := false }

/-- The decision without what is enforced of it. -/
def Decision.masked (d : Decision) : Decision := { d with shouldBlock := false }

namespace Checker

/-! ## What test mode may change -/

/-- The outcome without what is enforced of it. -/
def Outcome.masked (o : Outcome) : Outcome := { o with decision := o.decision.masked }

/-- What is remembered of an outcome without what was enforced of it. -/
def Remembered.masked (r : Remembered) : Remembered := { r with decision := r.decision.masked }

/-- The line, with the same title for a blocked message as for one that would have been blocked. -/
def LogLine.masked (line : LogLine) : LogLine :=
  if line.text = blockedTitle then { line with text := rehearsedTitle } else line

/-- The answer without what is enforced: in variables the flag is blotted out. -/
def Answer.masked : Answer → Answer
  | .checked o vars log =>
    .checked o.masked (vars.insert "spamblock_should_block" .null) (log.map (·.masked))
  | .inspected o => .inspected o.masked
  | .policy p => .policy p.masked
  | a => a

/-- The step without the test mode flag of a policy that it sets. -/
def Step.masked : Step → Step
  | .setPolicy p => .setPolicy p.masked
  | x => x

/-- The state without the flag of its policy and without what was enforced of the outcomes. -/
def State.masked {σ : Type} (s : State σ) : State σ :=
  ⟨s.policy.masked, s.recent.map (·.masked), s.audit⟩

theorem State.masked_masked {σ : Type} (s : State σ) : s.masked.masked = s.masked := by
  simp only [masked, Ledger.map_map]
  rfl

/-! ## Checks -/

section Checks

variable (c : Checker) (p : Policy) (peers : Http.Peers) (m : Mail.Message)

/-- The same providers are asked, and they trigger the same. -/
theorem masked_check : (c.check p peers m).masked = (c.check p.masked peers m).masked := rfl

theorem shouldBlock_check :
    (c.check p peers m).decision.shouldBlock =
      if p.testMode then false else (c.check p peers m).decision.wouldBlock := by
  cases hmode : p.testMode <;> simp [check, Policy.decide, Policy.decideSignals, hmode]

end Checks

section Outcomes

variable (o : Outcome) (vars : Mail.Vars) (level : LogLevel)

theorem masked_decisionLine :
    (o.decisionLine level).masked = (o.masked.decisionLine level).masked := by
  have hwould : o.masked.decision.wouldBlock = o.decision.wouldBlock := rfl
  unfold Outcome.decisionLine
  rw [hwould]
  split
  -- Whichever title the line has, it is masked to the same one.
  · cases hshould : o.decision.shouldBlock <;> rfl
  · rfl

theorem masked_log :
    (o.log level).map (·.masked) = (o.masked.log level).map (·.masked) := by
  rw [Outcome.log, Outcome.log, List.map_append, List.map_append, List.map_singleton,
    List.map_singleton, masked_decisionLine]
  rfl

theorem masked_annotate :
    (o.annotate vars).insert "spamblock_should_block" .null =
      (o.masked.annotate vars).insert "spamblock_should_block" .null := by
  rw [Outcome.annotate, Outcome.annotate, Json.Members.insert_insert, Json.Members.insert_insert]
  rfl

theorem masked_checked {o o' : Outcome} (ho : o.masked = o'.masked) :
    (Answer.checked o (o.annotate vars) (o.log level)).masked =
      (Answer.checked o' (o'.annotate vars) (o'.log level)).masked := by
  simp only [Answer.masked]
  rw [masked_annotate o, masked_annotate o', masked_log o, masked_log o', ho]

end Outcomes

/-! ## Steps -/

section Steps

variable {σ : Type} (c : Checker) (s : State σ) (now : Instant)

theorem live_masked : s.masked.live c now = (s.live c now).map (·.masked) :=
  Ledger.keep_map _ _ _

theorem pending_masked : s.masked.pending c now = s.pending c now := by
  rw [State.pending, live_masked, Ledger.size_map]
  rfl

theorem remember_masked (o : Outcome) :
    (s.remember c now o).masked = s.masked.remember c now o.masked := by
  have hmid : o.masked.mid = o.mid := rfl
  unfold State.remember
  rw [hmid]
  split
  · rfl
  · rw [live_masked]
    exact congrArg (State.mk _ · _) (Ledger.put_map _ _ _ _).symm

variable [Audit.Repository σ]

theorem step_check_masked (peers : Http.Peers) (vars : Mail.Vars) :
    (c.step s now (.check peers vars)).1.masked =
        (c.step s.masked now (.check peers vars)).1.masked ∧
      (c.step s now (.check peers vars)).2.masked =
        (c.step s.masked now (.check peers vars)).2.masked := by
  cases hheader : (Mail.Message.ofVars vars).hasHeader with
  | false =>
    rw [step_check_of_no_header c _ now hheader, step_check_of_no_header c _ now hheader]
    exact ⟨rfl, s.masked_masked.symm⟩
  | true =>
    have ho := masked_check c s.policy peers (.ofVars vars)
    rw [step_check_of_header c _ now hheader, step_check_of_header c _ now hheader]
    refine ⟨masked_checked vars _ ho, ?_⟩
    dsimp only
    rw [remember_masked, remember_masked, ho, s.masked_masked]
    rfl

/-- What a ticket takes over is read from what would be done, never from what was. -/
theorem step_created_masked (ticket : Ticket) (email mid : String) :
    c.step s.masked now (.created ticket email mid) =
      ((c.step s now (.created ticket email mid)).1,
        (c.step s now (.created ticket email mid)).2.masked) := by
  by_cases hticket : ticket ≤ 0
  · rw [step_created_of_nonpos c _ now email mid hticket,
      step_created_of_nonpos c s now email mid hticket]
  · have hpos := Int.not_le.1 hticket
    have hlive : (s.masked.live c now).get? mid = ((s.live c now).get? mid).map (·.masked) := by
      rw [live_masked, Ledger.get?_map]
    cases hfound : (s.live c now).get? mid with
    | none =>
      rw [hfound] at hlive
      rw [step_created_of_none c _ now email hpos hlive,
        step_created_of_none c s now email hpos hfound]
    | some r =>
      have hfinding : State.findingOf r.masked ticket email = State.findingOf r ticket email := rfl
      rw [hfound] at hlive
      rcases hupsert : Audit.Repository.upsert s.audit now (State.findingOf r ticket email)
        with ⟨_ | row, audit⟩
      · rw [step_created_of_refused c s.masked now hpos hlive (hfinding ▸ hupsert),
          step_created_of_refused c s now hpos hfound hupsert]
        rfl
      · rw [step_created_of_accepted c s.masked now hpos hlive (hfinding ▸ hupsert),
          step_created_of_accepted c s now hpos hfound hupsert, live_masked, Ledger.erase_map]
        rfl

/-- A step commutes with masking. -/
theorem step_masked (x : Step) :
    (c.step s now x).1.masked = (c.step s.masked now x.masked).1.masked ∧
      (c.step s now x).2.masked = (c.step s.masked now x.masked).2.masked := by
  cases x with
  | check peers vars => exact step_check_masked c s now peers vars
  | created ticket email mid =>
    have hstep := step_created_masked c s now ticket email mid
    refine ⟨congrArg (·.1.masked) hstep.symm, ?_⟩
    rw [← State.masked_masked]
    exact congrArg (·.2.masked) hstep.symm
  | inspect peers m => exact ⟨rfl, s.masked_masked.symm⟩
  | lookup ticket =>
    exact ⟨rfl, (State.masked_masked (c.step s now (.lookup ticket)).2).symm⟩
  | markSpam ticket email =>
    exact ⟨rfl, (State.masked_masked (c.step s now (.markSpam ticket email)).2).symm⟩
  | setPolicy p => exact ⟨rfl, (State.masked_masked { s with policy := p }).symm⟩
  | readPolicy => exact ⟨rfl, s.masked_masked.symm⟩

/-- Answers about rows are not masked at all. -/
theorem masked_of_ticket {x : Step} (hx : x.IsAboutTicket) :
    (c.step s now x).1.masked = (c.step s now x).1 := by
  obtain ⟨found, hfound⟩ := answer_of_ticket c s now hx
  rw [hfound]
  cases found <;> rfl

end Steps

/-! ## Two answers -/

theorem Answer.outcome?_masked (a : Answer) :
    a.masked.outcome? = a.outcome?.map (·.masked) := by
  cases a <;> rfl

/-- Two entries that agree in everything but what test mode may change. -/
structure Alike (e e' : Entry Step Answer) : Prop where
  answer : e.answer.masked = e'.answer.masked
  /-- About tickets, the answers are the same. -/
  ticket : e.asked.IsAboutTicket → e.answer = e'.answer
  /-- The outcomes of two checks write the same lines into the log, but for the title. -/
  log : ∀ o o', e.answer.outcome? = some o → e'.answer.outcome? = some o' →
    ∀ level, (o.log level).map (·.masked) = (o'.log level).map (·.masked)

/-- Two states with the same records under policies that differ in test mode at most. -/
structure SameRecords {σ : Type} (c : Checker) (s t : State σ) : Prop where
  policy : s.policy.masked = t.policy.masked
  audit : s.audit = t.audit
  pending : ∀ now, s.pending c now = t.pending c now

theorem log_alike {a a' : Answer} (ha : a.masked = a'.masked) {o o' : Outcome}
    (ho : a.outcome? = some o) (ho' : a'.outcome? = some o') (level : LogLevel) :
    (o.log level).map (·.masked) = (o'.log level).map (·.masked) := by
  have hmasked : o.masked = o'.masked := by
    have houtcome := congrArg Answer.outcome? ha
    rw [Answer.outcome?_masked, Answer.outcome?_masked, ho, ho'] at houtcome
    exact Option.some.inj houtcome
  rw [masked_log o, masked_log o', hmasked]

section Runs

variable {σ : Type} [Audit.Repository σ] (c : Checker) {s t : State σ}

theorem isAboutTicket_masked (x : Step) : x.masked.IsAboutTicket ↔ x.IsAboutTicket := by
  cases x <;> rfl

omit [Audit.Repository σ] in
theorem sameRecords_of_masked_eq (hst : s.masked = t.masked) : SameRecords c s t := by
  have haudit : s.masked.audit = t.masked.audit := congrArg State.audit hst
  refine ⟨congrArg State.policy hst, haudit, fun now => ?_⟩
  rw [← pending_masked c s, ← pending_masked c t, hst]

/-- Steps that differ in test mode at most, from states that do. -/
theorem step_alike (hst : s.masked = t.masked) {x y : Step} (hxy : x.masked = y.masked)
    (now : Instant) :
    Alike ⟨now, x, (c.step s now x).1⟩ ⟨now, y, (c.step t now y).1⟩ ∧
      (c.step s now x).2.masked = (c.step t now y).2.masked := by
  obtain ⟨hanswer, hstate⟩ := step_masked c s now x
  obtain ⟨hanswer', hstate'⟩ := step_masked c t now y
  rw [hst, hxy] at hanswer hstate
  have hmasked := hanswer.trans hanswer'.symm
  refine ⟨⟨hmasked, fun hx => ?_, fun o o' ho ho' => log_alike hmasked ho ho'⟩,
    hstate.trans hstate'.symm⟩
  have hy : y.IsAboutTicket := by
    rw [← isAboutTicket_masked, ← hxy, isAboutTicket_masked]
    exact hx
  have hticket := masked_of_ticket c s now hx
  have hticket' := masked_of_ticket c t now hy
  exact hticket.symm.trans (hmasked.trans hticket')

theorem run_alike (hst : s.masked = t.masked) {xs ys : List (Instant × Step)}
    (hsteps : List.Forall₂ (fun x y => x.1 = y.1 ∧ x.2.masked = y.2.masked) xs ys) :
    List.Forall₂ Alike (transcript c.step s xs) (transcript c.step t ys) ∧
      (c.run s xs).2.masked = (c.run t ys).2.masked := by
  have hstep (s t : State σ) (now : Instant) (x y : Step) (hst : s.masked = t.masked)
      (hxy : x.masked = y.masked) := step_alike c hst hxy now
  rw [run_eq, run_eq]
  exact transcript_related (R := fun s t : State σ => s.masked = t.masked)
    (S := fun x y : Step => x.masked = y.masked) hstep hsteps hst

end Runs

/-! ## Enforcement -/

/-- Under test mode nothing is blocked; without it, whatever would be. -/
def Enforces (p : Policy) (before : History) (e : Entry Step Answer) : Prop :=
  ∀ o, e.answer.outcome? = some o →
    o.decision.shouldBlock =
      if (inForce p before).testMode then false else o.decision.wouldBlock

section Enforcement

variable {σ : Type} [Audit.Repository σ]

theorem enforces_step (c : Checker) {s : State σ} {p : Policy} {h : History}
    (hpolicy : s.policy = inForce p h) (now : Instant) (x : Step) :
    Enforces p h ⟨now, x, (c.step s now x).1⟩ := by
  intro o ho
  obtain ⟨peers, m, rfl⟩ := outcome_step c s now ho
  rw [← hpolicy]
  exact shouldBlock_check c s.policy peers m

theorem enforces_run (c : Checker) (s : State σ) (xs : List (Instant × Step)) :
    Throughout (Enforces s.policy) (transcript c.step s xs) := by
  -- Along with the claim, the policy in the state is the one that the history has set.
  have hstart : s.policy = inForce s.policy [] ∧ Throughout (Enforces s.policy) [] :=
    ⟨rfl, throughout_nil⟩
  have hstep : ∀ (h : History) (t : State σ) (now : Instant) (x : Step),
      (t.policy = inForce s.policy h ∧ Throughout (Enforces s.policy) h) →
        (c.step t now x).2.policy = inForce s.policy (h ++ [⟨now, x, (c.step t now x).1⟩]) ∧
          Throughout (Enforces s.policy) (h ++ [⟨now, x, (c.step t now x).1⟩]) := by
    rintro h t now x ⟨hpolicy, henforces⟩
    refine ⟨?_, throughout_snoc_iff.2 ⟨henforces, enforces_step c hpolicy now x⟩⟩
    rw [policy_step, inForce_snoc, hpolicy]
  exact (transcript_induction
    (P := fun h (t : State σ) => t.policy = inForce s.policy h ∧ Throughout (Enforces s.policy) h)
    hstart hstep xs).2

/-- Test mode changes enforcement only.  Of two runs that differ in nothing but the test mode of
the policies, all answers about tickets, all rows and all counts of pending checks are the same;
the outcomes of checks are the same but for `shouldBlock`, the flag among the variables and the
title in the log.  Under test mode nothing is blocked, and without it what would be blocked is.
The audit store may be of any kind. -/
theorem testMode_enforces_only (c : Checker) (audit : σ) {p q : Policy}
    (hpolicy : p.masked = q.masked) {xs ys : List (Instant × Step)}
    (hsteps : List.Forall₂ (fun x y => x.1 = y.1 ∧ x.2.masked = y.2.masked) xs ys) :
    let h := transcript c.step (.over p audit) xs
    let h' := transcript c.step (.over q audit) ys
    List.Forall₂ Alike h h' ∧
      (∀ n, SameRecords c (c.run (.over p audit) (xs.take n)).2
        (c.run (.over q audit) (ys.take n)).2) ∧
        Throughout (Enforces p) h ∧ Throughout (Enforces q) h' := by
  intro h h'
  have hstart : (State.over p audit).masked = (State.over q audit).masked :=
    congrArg (State.mk · _ _) hpolicy
  refine ⟨(run_alike c hstart hsteps).1, fun n => ?_, enforces_run c (.over p audit) xs,
    enforces_run c (.over q audit) ys⟩
  exact sameRecords_of_masked_eq c (run_alike c hstart (List.forall₂_take n hsteps)).2

end Enforcement

/-- A checker whose only provider reports that every sending address is forbidden. -/
def sentry : Checker :=
  ⟨[], some (.fixed ((Provider.Report.scored Provider.spfName none).withData "result"
    (.string "fail"))), usualLifetime⟩

/-- The variables of a ticket for a message. -/
def drillVars : Mail.Vars :=
  [("header", .string "Subject: hello"), ("mid", .string "1@example.test")]

/-- A policy that blocks forbidden addresses is set, with or without test mode, before a message
is checked and gets its ticket. -/
def drill (testMode : Bool) : List (Instant × Step) := [
  (0, .setPolicy { Policy.default with testMode, spfFailAction := .spam }),
  (1, .check .unreachable drillVars),
  (2, .created 42 "" "1@example.test")]

/-- The message is blocked in one run only, and recorded as spam in both. -/
theorem testMode_enforces_only_drill :
    let rehearsal := { Policy.default with testMode := true }
    let h := transcript sentry.step (.fresh .default) (drill false)
    let h' := transcript sentry.step (.fresh rehearsal) (drill true)
    List.Forall₂ Alike h h' ∧
      h.map (fun e => e.answer.outcome?.map (·.decision.shouldBlock)) = [none, some true, none] ∧
      h'.map (fun e => e.answer.outcome?.map (·.decision.shouldBlock)) = [none, some false, none] ∧
      ((sentry.run (.fresh rehearsal) (drill true)).2.audit.lookup 42).map (·.isSpam) =
        some true := by
  intro rehearsal h h'
  have hpolicy : Policy.default.masked = rehearsal.masked := rfl
  have hsteps : List.Forall₂ (fun x y => x.1 = y.1 ∧ x.2.masked = y.2.masked)
      (drill false) (drill true) :=
    .cons ⟨rfl, rfl⟩ (.cons ⟨rfl, rfl⟩ (.cons ⟨rfl, rfl⟩ .nil))
  exact ⟨(testMode_enforces_only sentry Ledger.empty hpolicy hsteps).1, rfl, rfl, rfl⟩

end Checker

end SpamVerdict
