import SpamVerdict.Json.Record
import SpamVerdict.Decimal.Reading
import SpamVerdict.Spf.Result
import SpamVerdict.Text.Blank
set_option autoImplicit false

/-!
# Reports of providers (SPEC_FULL §3, §14.5)

A provider inspects a message and reports a score, an error or neither, with details.  A report
never fails a check: what goes wrong stands in it.

The fields are those that SPEC_FULL §3 lists for a result.  `numeric?` says which values a peer may
give for a number, and `maxScore` is the helper of §14.5.
-/

namespace SpamVerdict.Provider

/-- What a provider says about a message. -/
structure Report where
  provider : String
  score : Option Float
  error : Option String
  /-- The status of the peer's answer, if one came. -/
  status : Option Nat
  data : Json.Members

/-- The name of the content score provider. -/
def contentName : String := "postmark"

/-- The name of the reputation provider. -/
def reputationName : String := "sfs"

/-- The name of the SPF provider. -/
def spfName : String := "spf"

namespace Report

/-- A report without an error. -/
def scored (provider : String) (score : Option Float) : Report :=
  ⟨provider, score, none, none, []⟩

/-- A report of an error. -/
def failed (provider error : String) : Report :=
  ⟨provider, none, some error, none, []⟩

/-- The report with the status of an answer. -/
def withStatus (r : Report) (status : Nat) : Report := { r with status := some status }

/-- The report with one more detail. -/
def withData (r : Report) (key : String) (value : Json) : Report :=
  { r with data := r.data.insert key value }

/-- The report has no error. -/
def isOk (r : Report) : Bool := r.error.isNone

/-- The SPF outcome among the details. -/
def spfOutcome? (r : Report) : Option Spf.Outcome :=
  ((r.data.get? "result").bind Json.string?).bind Spf.Outcome.parse?

/-- The parts of a report in their order, by name; only the provider must be given,
and in a list all parts but the details. -/
def record : Json.Record Report where
  default := scored "" none
  fields := [
    .of .always "provider" .text fun x r => { r with provider := x },
    .of .inList "score" (.optional .float) fun x r => { r with score := x },
    .of .inList "error" (.optional .text) fun x r => { r with error := x },
    .of .inList "status_code" (.optional (.int 0 65535))
      fun x r => { r with status := x.map Int.toNat },
    .of .never "data" (.members Json.maxDepth) fun x r => { r with data := x }]

/-- The report that a value holds. -/
def ofJson? (v : Json) : Option Report := (record.read (.ofJson v)).toOption

/-- The report as a value. -/
def toJson (r : Report) : Json := Json.ofPairs [
  ("provider", .string r.provider),
  ("score", .ofOption .ofFloat r.score),
  ("error", .ofOption .string r.error),
  ("status_code", .ofOption (fun n => .ofInt n) r.status),
  ("data", .object r.data)]

end Report

/-- The highest score among reports.  A later score replaces the highest one so far unless that
is at least as high. -/
def maxScore (reports : List Report) : Option Float :=
  (reports.filterMap (·.score)).foldl (fun highest score =>
    match highest with
    | some m => if score ≤ m then some m else some score
    | none => some score) none

/-- A number, or a text that spells a finite one with blanks around it. -/
def numeric? : Option Json → Option Float
  | some (.number n) => some n.toFloat
  | some (.string s) => (Decimal.float? (Text.trim s).toList).filter Float.isFinite
  | _ => none

end SpamVerdict.Provider
