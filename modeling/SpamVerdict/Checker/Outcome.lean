import SpamVerdict.Decision
import SpamVerdict.Mail.Message
set_option autoImplicit false

/-!
# Outcomes of checks (SPEC_FULL §6, §12, §14.9)

What a check says about a message, how the host's variables are annotated with it, and which
lines it leaves in the log.

The annotation writes the three decision fields of SPEC_FULL §6 under the names of §14.9.  Of the
log, §12 fixes the titles of the two lines about a message that is blocked or would have been, and
that their level is the one which the policy sets; the lines about a failed provider and about a
message that passes have levels of their own.  What providers write for debugging while they work
is no part of an outcome and is left out.
-/

namespace SpamVerdict.Checker

/-- The outcome of a check. -/
structure Outcome where
  mid : String
  sender : String
  ip : String
  decision : Decision
  reports : List Provider.Report

/-- A line of the log: a title, and the values that go with it by name. -/
structure LogLine where
  level : LogLevel
  text : String
  fields : List (String × String)
  deriving DecidableEq, Repr

/-- The title of the line for a blocked message. -/
def blockedTitle : String := "Spamblock - Blocked Email"

/-- The title of the line for a message that would have been blocked. -/
def rehearsedTitle : String := "Spamblock - Would have blocked Email"

/-- The title of the line for a message that passes. -/
def passedTitle : String := "Message passed spam check"

/-- A status as the log shows it. -/
def statusText : Option Nat → String
  | none => "None"
  | some status => "Some(" ++ toString status ++ ")"

namespace Outcome

/-- The variables with the decision written into them. -/
def annotate (o : Outcome) (vars : Mail.Vars) : Mail.Vars :=
  ((vars.insert "spamblock_provider" (.string o.decision.providerTag)).insert "spamblock_score"
    (.string o.decision.scoreText)).insert "spamblock_should_block" (.string o.decision.flag)

/-- A line for every report of an error. -/
def failureLines (o : Outcome) : List LogLine :=
  o.reports.filterMap fun r => r.error.map fun error =>
    { level := .warning
      text := "Spam check provider failed: " ++ error
      fields := [("mid", o.mid), ("provider", r.provider), ("status", statusText r.status)] }

/-- The line about the decision.  Only for a message that would be blocked does it have the level
that the policy sets. -/
def decisionLine (level : LogLevel) (o : Outcome) : LogLine :=
  if o.decision.wouldBlock then
    { level
      text := if o.decision.shouldBlock then blockedTitle else rehearsedTitle
      fields := [("mid", o.mid), ("from", o.sender), ("ip", o.ip),
        ("provider", o.decision.providerTag), ("score", o.decision.scoreText)] }
  else
    { level := .debug
      text := passedTitle
      fields := [("mid", o.mid), ("provider", o.decision.providerTag),
        ("score", o.decision.scoreText)] }

/-- What a check writes to the log. -/
def log (level : LogLevel) (o : Outcome) : List LogLine :=
  o.failureLines ++ [o.decisionLine level]

/-- The outcome as a value. -/
def toJson (o : Outcome) : Json := Json.ofPairs [
  ("mid", .string o.mid),
  ("email", .string o.sender),
  ("ip", .string o.ip),
  ("decision", o.decision.toJson),
  ("results", .array (o.reports.map (·.toJson)))]

end Outcome

end SpamVerdict.Checker
