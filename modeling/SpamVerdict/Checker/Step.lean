import SpamVerdict.Checker.State
set_option autoImplicit false

/-!
# Steps of a checker (SPEC_FULL §13, §14)

Everything that a host can ask of a checker, as data, so that whole runs can be spoken about.

By SPEC_FULL §13 a check takes the policy at its start and keeps none across messages: a step is
carried out under the policy that the state holds, and `setPolicy` is a step like any other.  A run
is a list of steps with their times, each of which is over before the next one begins; calls that
overlap are not modelled.
-/

namespace SpamVerdict.Checker

/-- What is asked of a checker. -/
inductive Step where
  /-- Check the message that variables describe, and remember the outcome. -/
  | check (peers : Http.Peers) (vars : Mail.Vars)
  /-- Check a message without remembering the outcome. -/
  | inspect (peers : Http.Peers) (m : Mail.Message)
  | created (ticket : Ticket) (email mid : String)
  | lookup (ticket : Ticket)
  | markSpam (ticket : Ticket) (email : String)
  | setPolicy (p : Policy)
  | readPolicy

/-- What a checker answers. -/
inductive Answer where
  /-- The outcome for a message, the variables annotated with it, and the lines of the log. -/
  | checked (o : Outcome) (vars : Mail.Vars) (log : List LogLine)
  /-- There was no header block to check. -/
  | unchecked
  | inspected (o : Outcome)
  | row (row : Option Audit.Row)
  | refused (failure : Failure)
  | policy (p : Policy)

/-- The answer about a row. -/
def Answer.ofRow : Except Failure (Option Audit.Row) → Answer
  | .ok found => .row found
  | .error failure => .refused failure

section Runs

variable {σ : Type} [Audit.Repository σ]

/-- The answer to one step, and the state behind it. -/
def step (c : Checker) (s : State σ) (now : Instant) : Step → Answer × State σ
  | .check peers vars =>
    match s.checkVars c now peers vars with
    | (some o, s') => (.checked o (o.annotate vars) (o.log s.policy.blockedLogLevel), s')
    | (none, s') => (.unchecked, s')
  | .inspect peers m => (.inspected (c.check s.policy peers m), s)
  | .created ticket email mid =>
    let (answer, s) := s.ticketCreated c now ticket email mid
    (.ofRow answer, s)
  | .lookup ticket =>
    let (answer, s) := s.lookup ticket
    (.ofRow answer, s)
  | .markSpam ticket email =>
    let (answer, s) := s.markSpam now ticket email
    (.ofRow (answer.map some), s)
  | .setPolicy p => (.policy p, { s with policy := p })
  | .readPolicy => (.policy s.policy, s)

/-- The answers to steps at their times, and the state behind them. -/
def run (c : Checker) (s : State σ) : List (Instant × Step) → List Answer × State σ
  | [] => ([], s)
  | (now, x) :: rest =>
    let (answer, s) := c.step s now x
    let (answers, s) := run c s rest
    (answer :: answers, s)

end Runs

end SpamVerdict.Checker
