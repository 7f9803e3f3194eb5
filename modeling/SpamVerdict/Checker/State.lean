import SpamVerdict.Audit.Repository
import SpamVerdict.Checker.Outcome
import SpamVerdict.Provider
set_option autoImplicit false

/-!
# The checker (SPEC_FULL §13, §14.4, §14.6)

A checker asks its providers about a message and decides by the policy in force.  The outcome is
remembered by message id for a while; when the host reports the ticket that it opened for the
message, the outcome moves from memory into the audit store.

By SPEC_FULL §14.6 a message without a header block is not checked at all, an outcome is forgotten
once it is written, and it expires after a quarter of an hour.  By §14.4 the SPF provider is asked
only while some action of the policy is to block.  §14.10 lets providers run at the same time; as a
report is a function of the message and the peers, they are asked here in their order, which is the
order of the reports.

The audit store is any repository, and only the last section, on tickets, asks it anything.  The
times of calls are arguments, so no clock is read.
-/

namespace SpamVerdict

/-- The parts of a checker that never change. -/
structure Checker where
  /-- The providers that are always asked. -/
  providers : List Provider
  /-- The provider that is asked while the policy acts on SPF outcomes. -/
  spf : Option Provider
  /-- How long the outcome of a check waits for its ticket. -/
  lifetime : Nat

namespace Checker

/-- How long an outcome waits unless another time is set: a quarter of an hour. -/
def usualLifetime : Nat := 15 * 60 * 1000

/-- The outcome of a check that waits for its ticket. -/
structure Remembered where
  sender : String
  decision : Decision
  since : Instant

/-- What a checker knows at some time, over an audit store of some kind. -/
structure State (σ : Type) where
  policy : Policy
  /-- The outcomes that wait for their tickets, by message id. -/
  recent : Ledger String Remembered
  audit : σ

/-- A checker that has not checked anything yet, over an audit store. -/
def State.over {σ : Type} (policy : Policy) (audit : σ) : State σ := ⟨policy, .empty, audit⟩

/-- A checker that has not checked anything yet, and keeps its rows in memory. -/
def State.fresh (policy : Policy) : State Audit.Store := .over policy .empty

/-! ## Checks -/

/-- The providers that are asked under a policy, in their order. -/
def asked (c : Checker) (p : Policy) : List Provider :=
  c.providers ++ if p.isSpfEnabled then c.spf.toList else []

/-- The outcome for a message under a policy. -/
def check (c : Checker) (p : Policy) (peers : Http.Peers) (m : Mail.Message) : Outcome :=
  let reports := (c.asked p).map fun provider => provider peers m
  { mid := m.mid, sender := m.sender, ip := m.ip, decision := p.decide reports, reports }

/-- An outcome still waits at a time. -/
def isLive (c : Checker) (now : Instant) (r : Remembered) : Bool := now - r.since < c.lifetime

namespace State

variable {σ : Type}

/-- The outcomes that still wait at a time. -/
def live (s : State σ) (c : Checker) (now : Instant) : Ledger String Remembered :=
  s.recent.keep fun e => c.isLive now e.2

/-- The number of outcomes that still wait at a time. -/
def pending (s : State σ) (c : Checker) (now : Instant) : Nat := (s.live c now).size

/-- Remembers an outcome, unless the message has no id. -/
def remember (s : State σ) (c : Checker) (now : Instant) (o : Outcome) : State σ :=
  if o.mid.isEmpty then s
  else { s with recent := (s.live c now).put o.mid ⟨o.sender, o.decision, now⟩ }

/-- Checks the message that the variables of a ticket describe, unless it has no header block. -/
def checkVars (s : State σ) (c : Checker) (now : Instant) (peers : Http.Peers)
    (vars : Mail.Vars) : Option Outcome × State σ :=
  let m := Mail.Message.ofVars vars
  if m.hasHeader then
    let o := c.check s.policy peers m
    (some o, s.remember c now o)
  else (none, s)

/-! ## Tickets -/

/-- What is written about a ticket when it is opened for a remembered message: the given address
or, if that is blank, the one of the sender. -/
def findingOf (r : Remembered) (ticket : Ticket) (email : String) : Audit.Finding where
  ticket := ticket
  email := if (Text.trim email).isEmpty then r.sender else Text.trim email
  isSpam := r.decision.wouldBlock
  contentScore := r.decision.contentScore
  reputation := r.decision.reputation
  spf := r.decision.spf.map Spf.Outcome.name

variable [Audit.Repository σ]

/-- Moves the outcome for a message into the audit store; there is no row if none waits.  If the
store refuses it, the outcome goes on waiting. -/
def ticketCreated (s : State σ) (c : Checker) (now : Instant) (ticket : Ticket)
    (email mid : String) : Except Failure (Option Audit.Row) × State σ :=
  if ticket ≤ 0 then
    (.error (.validation ("ticket id must be positive, got " ++ toString ticket)), s)
  else
    match (s.live c now).get? mid with
    | none => (.ok none, s)
    | some r =>
      match Audit.Repository.upsert s.audit now (findingOf r ticket email) with
      | (.ok row, audit) =>
        (.ok (some row), { s with audit, recent := (s.live c now).erase mid })
      | (.error failure, audit) => (.error failure, { s with audit })

/-- The row of a ticket. -/
def lookup (s : State σ) (ticket : Ticket) : Except Failure (Option Audit.Row) × State σ :=
  let (answer, audit) := Audit.Repository.lookup s.audit ticket
  (answer, { s with audit })

/-- Marks a ticket as spam. -/
def markSpam (s : State σ) (now : Instant) (ticket : Ticket) (email : String) :
    Except Failure Audit.Row × State σ :=
  let (answer, audit) := Audit.Repository.markSpam s.audit now ticket email
  (answer, { s with audit })

end State

end Checker

end SpamVerdict
