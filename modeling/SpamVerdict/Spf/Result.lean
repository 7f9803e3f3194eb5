import SpamVerdict.Text.Case
import SpamVerdict.Text.Blank
set_option autoImplicit false

/-!
# SPF results and outcomes (SPEC_FULL §3, §4.3)

A `Result` is one of the seven verdicts of the sender policy framework.  An `Outcome` is the
coarser verdict that the blocking policy acts on: neutral counts as pass, a soft fail as fail, and
both kinds of error as invalid.

The two sets of names, and the map between them, are those of SPEC_FULL §3 and of §4.3, step 4.
-/

namespace SpamVerdict.Spf

/-- The verdict on a sending address. -/
inductive Result where
  /-- The address is authorised. -/
  | pass
  /-- The address is not authorised. -/
  | fail
  /-- The address is probably not authorised. -/
  | softFail
  /-- The owner of the domain says nothing about the address. -/
  | neutral
  /-- The domain publishes no policy. -/
  | none
  /-- The policy could not be looked up. -/
  | tempError
  /-- The policy cannot be evaluated. -/
  | permError
  deriving DecidableEq, Repr

/-- The verdict as the blocking policy sees it. -/
inductive Outcome where
  | pass
  | fail
  | none
  | invalid
  deriving DecidableEq, Repr

namespace Result

/-- The name of a result. -/
def name : Result → String
  | pass => "pass"
  | fail => "fail"
  | softFail => "softfail"
  | neutral => "neutral"
  | none => "none"
  | tempError => "temperror"
  | permError => "permerror"

/-- The outcome of a result. -/
def outcome : Result → Outcome
  | pass => .pass
  | neutral => .pass
  | fail => .fail
  | softFail => .fail
  | none => .none
  | tempError => .invalid
  | permError => .invalid

/-- All results, with their names. -/
def names : List (String × Result) :=
  [pass, fail, softFail, neutral, none, tempError, permError].map fun r => (r.name, r)

end Result

namespace Outcome

/-- The name of an outcome. -/
def name : Outcome → String
  | pass => "pass"
  | fail => "fail"
  | none => "none"
  | invalid => "invalid"

/-- The outcome with a name, in any ASCII case and with blanks around it. -/
def parse? (s : String) : Option Outcome :=
  [pass, fail, none, invalid].find? fun o => o.name == Text.lowerAscii (Text.trim s)

/-- What is said of a text that names no outcome. -/
def unknownMessage (s : String) : String :=
  "unknown SPF outcome: " ++ Text.lowerAscii (Text.trim s)

theorem parse?_name (o : Outcome) : parse? o.name = some o := by
  cases o <;> rfl

end Outcome

end SpamVerdict.Spf
