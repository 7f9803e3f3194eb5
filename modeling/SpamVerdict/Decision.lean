import SpamVerdict.Decimal.Layout
import SpamVerdict.Policy
import SpamVerdict.Provider.Report
set_option autoImplicit false

/-!
# Decisions (SPEC_FULL §4.5, §6)

The reports of the providers are boiled down to three signals, and the policy decides from them
whether a message would be blocked, and whether it is.

SPEC_FULL §4.5 has each source speak for itself: the content score and the reputation if they reach
their minimum, an SPF outcome if the policy acts on it, and a pass never.  A message would be
blocked if any source speaks for that, and it is blocked unless in test mode.  The list of triggered
sources holds the names under which providers report, and the provider tag of §6 falls back on all
sources that reported.

Of several reports under one name the last one counts; a report without a score, one of an error
in particular, clears the signal.
-/

namespace SpamVerdict

/-- What the policy acts on. -/
structure Signals where
  contentScore : Option Float := none
  reputation : Option Float := none
  spf : Option Spf.Outcome := none

namespace Signals

/-- The signals with those of one more report; a report of another provider says nothing. -/
def add (s : Signals) (r : Provider.Report) : Signals :=
  if r.provider = Provider.contentName then { s with contentScore := r.score }
  else if r.provider = Provider.reputationName then { s with reputation := r.score }
  else if r.provider = Provider.spfName then { s with spf := r.spfOutcome? }
  else s

/-- The signals of reports; of a repeated provider the last report counts. -/
def ofReports (reports : List Provider.Report) : Signals := reports.foldl add {}

end Signals

/-- The decision on a message. -/
structure Decision where
  /-- Some source speaks for blocking. -/
  wouldBlock : Bool
  /-- The message is blocked. -/
  shouldBlock : Bool
  /-- The sources that speak for blocking. -/
  triggered : List String
  /-- The sources that reported. -/
  queried : List String
  contentScore : Option Float
  reputation : Option Float
  spf : Option Spf.Outcome

/-- The policy's action on an SPF outcome; a pass is never acted on. -/
def Policy.actionOn (p : Policy) : Option Spf.Outcome → Action
  | some .fail => p.spfFailAction
  | some .none => p.spfNoneAction
  | some .invalid => p.spfInvalidAction
  | some .pass => .ignore
  | none => .ignore

/-- A score that reaches a threshold. -/
def reaches (score : Option Float) (threshold : Float) : Bool :=
  score.any fun s => threshold ≤ s

/-- The sources that speak for blocking under a policy, in their fixed order. -/
def Policy.triggers (p : Policy) (s : Signals) : List String :=
  (if reaches s.contentScore p.minBlockScore then [Provider.contentName] else []) ++
    (if reaches s.reputation p.sfsMinConfidence then [Provider.reputationName] else []) ++
      (if p.actionOn s.spf = .spam then [Provider.spfName] else [])

/-- The decision on signals. -/
def Policy.decideSignals (p : Policy) (s : Signals) (queried : List String) : Decision :=
  let triggered := p.triggers s
  { wouldBlock := !triggered.isEmpty
    shouldBlock := !triggered.isEmpty && !p.testMode
    triggered, queried
    contentScore := s.contentScore
    reputation := s.reputation
    spf := s.spf }

/-- The decision on reports. -/
def Policy.decide (p : Policy) (reports : List Provider.Report) : Decision :=
  p.decideSignals (.ofReports reports) (reports.map (·.provider))

namespace Decision

/-- The sources that speak for blocking, or all that reported if none does. -/
def providerTag (d : Decision) : String :=
  ",".intercalate (if d.triggered.isEmpty then d.queried else d.triggered)

/-- The text of the content score, empty if there is none. -/
def scoreText (d : Decision) : String :=
  (d.contentScore.map Decimal.Layout.plain.render).getD ""

/-- The flag for a blocked message. -/
def flag (d : Decision) : String := if d.shouldBlock then "1" else "0"

/-- The decision as a value. -/
def toJson (d : Decision) : Json := Json.ofPairs [
  ("would_block", .bool d.wouldBlock),
  ("should_block", .bool d.shouldBlock),
  ("triggered", .ofStrings d.triggered),
  ("queried", .ofStrings d.queried),
  ("postmark_score", .ofOption .ofFloat d.contentScore),
  ("sfs_confidence", .ofOption .ofFloat d.reputation),
  ("spf_result", .ofOption (fun o => .string o.name) d.spf)]

end Decision

end SpamVerdict
