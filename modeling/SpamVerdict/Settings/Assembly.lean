import SpamVerdict.Audit.Backend
import SpamVerdict.Checker.State
import SpamVerdict.Settings.Basic
set_option autoImplicit false

/-!
# Assembly (SPEC_FULL §13)

The checker that settings describe: its providers in their fixed order, and the state it starts
with.

By the sections of SPEC_FULL §13 each of the two services can be switched off, and the audit store
is in memory or on a server.  The address of the reputation service must be a web address for a
checker to be made at all; the one of the content-score service is read when it is asked.
-/

namespace SpamVerdict.Settings

/-- The providers that are switched on. -/
def providers (s : Settings) (decoder : Http.Decoder) : Except Failure (List Provider) := do
  let contentScore :=
    if s.contentScore.enabled then [.contentScore decoder s.contentScore.url] else []
  let reputation ← if s.reputation.enabled then
      (Provider.reputation s.reputation.url).map ([·])
    else .ok []
  return contentScore ++ reputation

/-- The checker that settings describe, which looks up policies of senders by a resolver. -/
def checker (s : Settings) (decoder : Http.Decoder) (dns : Dns.Resolver) :
    Except Failure Checker :=
  (s.providers decoder).map fun providers =>
    ⟨providers, some (.senderPolicy dns), Checker.usualLifetime⟩

section Stores

variable {σ : Type}

/-- The state in which a checker starts over an audit store. -/
def start (s : Settings) (audit : σ) : Checker.State σ := .over s.policy audit

/-- The audit store that settings name. -/
def openStore [Audit.Server σ] (s : Settings) (reach : Audit.Connect σ) :
    Except Failure (Audit.Backend σ) :=
  let database := s.database
  Audit.Backend.connect reach database.backend database.url database.maxConnections
    database.minConnections

end Stores

end SpamVerdict.Settings
