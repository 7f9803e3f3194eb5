import SpamVerdict.Json.Record
set_option autoImplicit false

/-!
# The blocking policy (SPEC_FULL §3, §12, §13)

From which score on a message is blocked, which SPF outcomes block it, whether blocking is only
rehearsed, and at which level a blocked message is logged.  A policy is read from JSON and
written to it; a part that is not given has its default.

The parts and their defaults are those of the section `[policy]` in SPEC_FULL §13, and the levels
those of §12.  `isSpfEnabled` is the condition of §14.4 under which the SPF provider is asked.
-/

namespace SpamVerdict

/-- What to do about an SPF outcome. -/
inductive Action where
  | ignore
  | spam
  deriving DecidableEq, Repr, Inhabited

namespace Action

/-- The name of an action. -/
def name : Action → String
  | ignore => "ignore"
  | spam => "spam"

/-- The actions, by name. -/
def names : List (String × Action) := [ignore, spam].map fun a => (a.name, a)

end Action

/-- The level at which a blocked message is logged. -/
inductive LogLevel where
  | debug
  | warning
  | error
  deriving DecidableEq, Repr, Inhabited

namespace LogLevel

/-- The name of a level. -/
def name : LogLevel → String
  | debug => "debug"
  | warning => "warning"
  | error => "error"

/-- The levels, by name. -/
def names : List (String × LogLevel) := [debug, warning, error].map fun l => (l.name, l)

end LogLevel

/-- The blocking policy. -/
structure Policy where
  /-- The least content score that blocks. -/
  minBlockScore : Float
  /-- The least reputation confidence that blocks. -/
  sfsMinConfidence : Float
  /-- Decide and record, but never block. -/
  testMode : Bool
  /-- What to do if the sending address is not allowed. -/
  spfFailAction : Action
  /-- What to do if the domain publishes no policy. -/
  spfNoneAction : Action
  /-- What to do if the policy of the domain cannot be evaluated. -/
  spfInvalidAction : Action
  blockedLogLevel : LogLevel
  deriving DecidableEq

namespace Policy

/-- The policy in which every part has its default: five points, a confidence of ninety, no
action on SPF outcomes, and warnings. -/
def default : Policy where
  minBlockScore := Decimal.nearestDecimal false 5 0
  sfsMinConfidence := Decimal.nearestDecimal false 90 0
  testMode := false
  spfFailAction := .ignore
  spfNoneAction := .ignore
  spfInvalidAction := .ignore
  blockedLogLevel := .warning

instance : Inhabited Policy := ⟨default⟩

/-- Some SPF outcome makes a difference. -/
def isSpfEnabled (p : Policy) : Bool :=
  p.spfFailAction = .spam || p.spfNoneAction = .spam || p.spfInvalidAction = .spam

/-- The parts of a policy in their order, by name. -/
def record : Json.Record Policy where
  default := default
  fields := [
    .of .never "min_block_score" .float fun x p => { p with minBlockScore := x },
    .of .never "sfs_min_confidence" .float fun x p => { p with sfsMinConfidence := x },
    .of .never "test_mode" .bool fun x p => { p with testMode := x },
    .of .never "spf_fail_action" (.choice Action.names) fun x p => { p with spfFailAction := x },
    .of .never "spf_none_action" (.choice Action.names) fun x p => { p with spfNoneAction := x },
    .of .never "spf_invalid_action" (.choice Action.names)
      fun x p => { p with spfInvalidAction := x },
    .of .never "blocked_email_log_level" (.choice LogLevel.names)
      fun x p => { p with blockedLogLevel := x }]

/-- The policy that a whole text spells. -/
def parse? (s : String) : Option Policy := Json.readWhole? record.read s

/-- The policy that a value holds. -/
def ofJson? (v : Json) : Option Policy := (record.read (.ofJson v)).toOption

/-- The policy as a value. -/
def toJson (p : Policy) : Json := Json.ofPairs [
  ("min_block_score", .ofFloat p.minBlockScore),
  ("sfs_min_confidence", .ofFloat p.sfsMinConfidence),
  ("test_mode", .bool p.testMode),
  ("spf_fail_action", .string p.spfFailAction.name),
  ("spf_none_action", .string p.spfNoneAction.name),
  ("spf_invalid_action", .string p.spfInvalidAction.name),
  ("blocked_email_log_level", .string p.blockedLogLevel.name)]

end Policy

end SpamVerdict
