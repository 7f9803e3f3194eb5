set_option autoImplicit false

/-!
# Failures (SPEC_FULL §11)

Why an operation of the service fails.  Each kind has a code for programs, a status for answers
over HTTP and a text for people.

SPEC_FULL §11 lists the kinds.  Providers and name servers are not among their causes in a check:
what goes wrong there is part of a report (§7), so no check ends in a failure.
-/

namespace SpamVerdict

/-- Why an operation fails. -/
inductive Failure where
  | config (text : String)
  | database (text : String)
  | validation (text : String)
  | notFound (text : String)
  | provider (text : String)
  | internal (text : String)
  /-- A failure that is described by its text alone. -/
  | other (text : String)
  deriving DecidableEq, Repr

namespace Failure

/-- The text of a failure. -/
def message : Failure → String
  | config text => "Configuration error: " ++ text
  | database text => "Database error: " ++ text
  | validation text => "Validation error: " ++ text
  | notFound text => "Not found: " ++ text
  | provider text => "Provider error: " ++ text
  | internal text => "Internal error: " ++ text
  | other text => text

/-- The code of a failure. -/
def code : Failure → String
  | config _ => "CONFIG_ERROR"
  | database _ => "DATABASE_ERROR"
  | validation _ => "VALIDATION_ERROR"
  | notFound _ => "NOT_FOUND"
  | provider _ => "PROVIDER_ERROR"
  | internal _ => "INTERNAL_ERROR"
  | other _ => "INTERNAL_ERROR"

/-- The status of an answer that reports a failure. -/
def status : Failure → Nat
  | validation _ => 422
  | notFound _ => 404
  | provider _ => 502
  | _ => 500

end Failure

end SpamVerdict
