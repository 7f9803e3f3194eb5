import SpamVerdict.Checker.Step
import SpamVerdict.Proofs.Audit.Laws
import SpamVerdict.Proofs.Transcript
set_option autoImplicit false

/-!
# What a step of a checker does (SPEC_FULL §14.6)

One equation for every way in which a step can end, so that later proofs need not open the steps
again, and the transcript of a run (`run_eq`).  The equations hold over any audit store; where rows
are kept in memory, a store never refuses a row for a ticket that there is.

A created ticket has the most ways to end: its number names no ticket, no outcome waits for it, or
the store takes the row or refuses it.
-/

namespace SpamVerdict

namespace Checker

/-- What was asked of a checker, and its answers. -/
abbrev History := List (Entry Step Answer)

/-- The outcome of a check, whether by variables or of a message. -/
def Answer.outcome? : Answer → Option Outcome
  | .checked o _ _ => some o
  | .inspected o => some o
  | _ => none

/-- Steps about tickets. -/
def Step.IsAboutTicket : Step → Prop
  | .created _ _ _ => True
  | .lookup _ => True
  | .markSpam _ _ => True
  | _ => False

/-- The policy behind a step. -/
def Step.policyAfter (p : Policy) : Step → Policy
  | .setPolicy q => q
  | _ => p

/-- The policy in force after a history that began with `p`: the last one that was set. -/
def inForce (p : Policy) (h : History) : Policy := h.foldl (fun p e => e.asked.policyAfter p) p

theorem inForce_snoc (p : Policy) (h : History) (e : Entry Step Answer) :
    inForce p (h ++ [e]) = e.asked.policyAfter (inForce p h) := by
  rw [inForce, inForce, List.foldl_append, List.foldl_cons, List.foldl_nil]

/-- A run gives the answers of its transcript. -/
theorem run_eq {σ : Type} [Audit.Repository σ] (c : Checker) (s : State σ)
    (steps : List (Instant × Step)) :
    c.run s steps = ((transcript c.step s steps).map (·.answer), stateAfter c.step s steps) := by
  induction steps generalizing s with
  | nil => rfl
  | cons x steps ih =>
    obtain ⟨now, x⟩ := x
    simp only [run, ih, transcript, stateAfter, List.map_cons]

section Steps

variable {σ : Type} (c : Checker) (s : State σ) (now : Instant)

theorem State.get?_live (mid : String) :
    (s.live c now).get? mid = (s.recent.get? mid).filter (c.isLive now) :=
  Ledger.get?_keep _ _ mid

/-! ## Checks -/

/-- Variables with a header block are checked under the policy in force, and the outcome is
remembered. -/
theorem State.checkVars_of_header (peers : Http.Peers) {vars : Mail.Vars}
    (hheader : (Mail.Message.ofVars vars).hasHeader = true) :
    s.checkVars c now peers vars =
      let o := c.check s.policy peers (.ofVars vars)
      (some o, s.remember c now o) := by
  simp only [State.checkVars, hheader, if_true]

theorem State.checkVars_of_no_header (peers : Http.Peers) {vars : Mail.Vars}
    (hheader : (Mail.Message.ofVars vars).hasHeader = false) :
    s.checkVars c now peers vars = (none, s) := by
  simp [State.checkVars, hheader]

theorem State.policy_remember (o : Outcome) : (s.remember c now o).policy = s.policy := by
  unfold State.remember
  split <;> rfl

variable [Audit.Repository σ]

theorem step_check_of_header {peers : Http.Peers} {vars : Mail.Vars}
    (hheader : (Mail.Message.ofVars vars).hasHeader = true) :
    c.step s now (.check peers vars) =
      let o := c.check s.policy peers (.ofVars vars)
      (.checked o (o.annotate vars) (o.log s.policy.blockedLogLevel), s.remember c now o) := by
  rw [step, s.checkVars_of_header c now peers hheader]

theorem step_check_of_no_header {peers : Http.Peers} {vars : Mail.Vars}
    (hheader : (Mail.Message.ofVars vars).hasHeader = false) :
    c.step s now (.check peers vars) = (.unchecked, s) := by
  rw [step, s.checkVars_of_no_header c now peers hheader]

/-! ## Tickets -/

theorem State.ticketCreated_of_nonpos {ticket : Ticket} (email mid : String)
    (hticket : ticket ≤ 0) :
    s.ticketCreated c now ticket email mid =
      (.error (.validation ("ticket id must be positive, got " ++ toString ticket)), s) := by
  rw [State.ticketCreated, if_pos hticket]

theorem State.ticketCreated_of_none {ticket : Ticket} (email : String) {mid : String}
    (hticket : 0 < ticket) (hmid : (s.live c now).get? mid = none) :
    s.ticketCreated c now ticket email mid = (.ok none, s) := by
  rw [State.ticketCreated, if_neg (Int.not_le.2 hticket), hmid]

/-- A remembered outcome moves into the audit store. -/
theorem State.ticketCreated_of_accepted {ticket : Ticket} {email mid : String} {r : Remembered}
    {row : Audit.Row} {audit : σ} (hticket : 0 < ticket)
    (hmid : (s.live c now).get? mid = some r)
    (hupsert : Audit.Repository.upsert s.audit now (State.findingOf r ticket email) =
      (.ok row, audit)) :
    s.ticketCreated c now ticket email mid =
      (.ok (some row), { s with audit, recent := (s.live c now).erase mid }) := by
  rw [State.ticketCreated, if_neg (Int.not_le.2 hticket), hmid]
  simp only [hupsert]

/-- An outcome that the audit store does not take goes on waiting. -/
theorem State.ticketCreated_of_refused {ticket : Ticket} {email mid : String} {r : Remembered}
    {failure : Failure} {audit : σ} (hticket : 0 < ticket)
    (hmid : (s.live c now).get? mid = some r)
    (hupsert : Audit.Repository.upsert s.audit now (State.findingOf r ticket email) =
      (.error failure, audit)) :
    s.ticketCreated c now ticket email mid = (.error failure, { s with audit }) := by
  rw [State.ticketCreated, if_neg (Int.not_le.2 hticket), hmid]
  simp only [hupsert]

theorem step_created_of_nonpos {ticket : Ticket} (email mid : String) (hticket : ticket ≤ 0) :
    c.step s now (.created ticket email mid) =
      (.refused (.validation ("ticket id must be positive, got " ++ toString ticket)), s) := by
  rw [step, s.ticketCreated_of_nonpos c now email mid hticket]
  rfl

theorem step_created_of_none {ticket : Ticket} (email : String) {mid : String}
    (hticket : 0 < ticket) (hmid : (s.live c now).get? mid = none) :
    c.step s now (.created ticket email mid) = (.row none, s) := by
  rw [step, s.ticketCreated_of_none c now email hticket hmid]
  rfl

theorem step_created_of_accepted {ticket : Ticket} {email mid : String} {r : Remembered}
    {row : Audit.Row} {audit : σ} (hticket : 0 < ticket)
    (hmid : (s.live c now).get? mid = some r)
    (hupsert : Audit.Repository.upsert s.audit now (State.findingOf r ticket email) =
      (.ok row, audit)) :
    c.step s now (.created ticket email mid) =
      (.row (some row), { s with audit, recent := (s.live c now).erase mid }) := by
  rw [step, s.ticketCreated_of_accepted c now hticket hmid hupsert]
  rfl

theorem step_created_of_refused {ticket : Ticket} {email mid : String} {r : Remembered}
    {failure : Failure} {audit : σ} (hticket : 0 < ticket)
    (hmid : (s.live c now).get? mid = some r)
    (hupsert : Audit.Repository.upsert s.audit now (State.findingOf r ticket email) =
      (.error failure, audit)) :
    c.step s now (.created ticket email mid) = (.refused failure, { s with audit }) := by
  rw [step, s.ticketCreated_of_refused c now hticket hmid hupsert]
  rfl

/-- The answer to a step about a ticket is about a row. -/
theorem answer_of_ticket {x : Step} (hx : x.IsAboutTicket) :
    ∃ found, (c.step s now x).1 = .ofRow found := by
  cases x with
  | created ticket email mid => exact ⟨_, rfl⟩
  | lookup ticket => exact ⟨_, rfl⟩
  | markSpam ticket email => exact ⟨_, rfl⟩
  | check peers vars => exact hx.elim
  | inspect peers m => exact hx.elim
  | setPolicy p => exact hx.elim
  | readPolicy => exact hx.elim

theorem outcome?_of_ticket {x : Step} (hx : x.IsAboutTicket) :
    (c.step s now x).1.outcome? = none := by
  obtain ⟨found, hfound⟩ := answer_of_ticket c s now hx
  rw [hfound]
  cases found <;> rfl

/-! ## Other steps -/

/-- Only checks and created tickets change what is remembered. -/
theorem recent_step {x : Step} (hcheck : ∀ peers vars, x ≠ .check peers vars)
    (hcreated : ∀ ticket email mid, x ≠ .created ticket email mid) :
    (c.step s now x).2.recent = s.recent := by
  cases x with
  | check peers vars => exact absurd rfl (hcheck peers vars)
  | created ticket email mid => exact absurd rfl (hcreated ticket email mid)
  | _ => rfl

/-- Only a policy that is set changes the policy in force. -/
theorem policy_step (x : Step) : (c.step s now x).2.policy = x.policyAfter s.policy := by
  cases x with
  | check peers vars =>
    cases hheader : (Mail.Message.ofVars vars).hasHeader with
    | false =>
      rw [step_check_of_no_header c s now hheader]
      rfl
    | true =>
      rw [step_check_of_header c s now hheader]
      exact s.policy_remember c now _
  | created ticket email mid =>
    by_cases hticket : ticket ≤ 0
    · rw [step_created_of_nonpos c s now email mid hticket]
      rfl
    · have hpos := Int.not_le.1 hticket
      cases hfound : (s.live c now).get? mid with
      | none =>
        rw [step_created_of_none c s now email hpos hfound]
        rfl
      | some r =>
        rcases hupsert : Audit.Repository.upsert s.audit now (State.findingOf r ticket email)
          with ⟨_ | row, audit⟩
        · rw [step_created_of_refused c s now hpos hfound hupsert]
          rfl
        · rw [step_created_of_accepted c s now hpos hfound hupsert]
          rfl
  | _ => rfl

/-- Every outcome is that of a check under the policy in force. -/
theorem outcome_step {x : Step} {o : Outcome} (ho : (c.step s now x).1.outcome? = some o) :
    ∃ peers m, o = c.check s.policy peers m := by
  cases x with
  | check peers vars =>
    cases hheader : (Mail.Message.ofVars vars).hasHeader with
    | false =>
      rw [step_check_of_no_header c s now hheader] at ho
      cases ho
    | true =>
      rw [step_check_of_header c s now hheader] at ho
      exact ⟨peers, _, (Option.some.inj ho).symm⟩
  | inspect peers m => exact ⟨peers, m, (Option.some.inj ho).symm⟩
  | setPolicy p => cases ho
  | readPolicy => cases ho
  | created ticket email mid =>
    have hnone := outcome?_of_ticket c s now (x := .created ticket email mid) trivial
    cases hnone.symm.trans ho
  | lookup ticket =>
    have hnone := outcome?_of_ticket c s now (x := .lookup ticket) trivial
    cases hnone.symm.trans ho
  | markSpam ticket email =>
    have hnone := outcome?_of_ticket c s now (x := .markSpam ticket email) trivial
    cases hnone.symm.trans ho

end Steps

/-! ## Rows in memory -/

section Memory

variable (c : Checker) (s : State Audit.Store) (now : Instant)

/-- A remembered outcome moves into memory. -/
theorem step_created_of_some {ticket : Ticket} (email : String) {mid : String} {r : Remembered}
    (hticket : 0 < ticket) (hmid : (s.live c now).get? mid = some r) :
    c.step s now (.created ticket email mid) =
      let row := s.audit.rowOf now (State.findingOf r ticket email)
      (.row (some row),
        { s with audit := s.audit.put ticket row, recent := (s.live c now).erase mid }) :=
  step_created_of_accepted c s now hticket hmid (s.audit.upsert_of_pos now hticket)

end Memory

end Checker

end SpamVerdict
