import SpamVerdict.Json.Basic
import SpamVerdict.Spf.Evaluation
set_option autoImplicit false

/-!
# Evaluations as data (SPEC_FULL §3)

What an evaluation says about a domain, as a JSON value.  The members are the fields of an
evaluation in SPEC_FULL §3, with the error that §4.3 adds to some of them.
-/

namespace SpamVerdict.Spf

/-- The evaluation as a value. -/
def Evaluation.toJson (e : Evaluation) : Json := Json.ofPairs [
  ("domain", .string e.verdict.domain),
  ("result", .string e.outcome.name),
  ("raw", .string e.verdict.raw.name),
  ("record", .ofOption .string e.verdict.record),
  ("redirect_chain", .ofStrings e.verdict.redirectChain),
  ("error", .ofOption .string e.error),
  ("trace", .ofStrings e.trace)]

end SpamVerdict.Spf
