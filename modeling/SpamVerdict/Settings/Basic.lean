import SpamVerdict.Failure
import SpamVerdict.Policy
import SpamVerdict.Settings.Conversion
import SpamVerdict.Settings.Environment
import SpamVerdict.Toml.Document
set_option autoImplicit false

/-!
# Settings (SPEC_FULL §13)

Everything that can be set, with its defaults.  Settings come from a file and from the
environment; the environment is put on top of the file, and what neither says has its default.

The sections, their entries and the defaults are those of SPEC_FULL §13.  Entries that only say how
to listen, log or wait are read and checked like all others, although nothing here depends on them.
-/

namespace SpamVerdict.Settings

/-- The listener of the service. -/
structure Server where
  bindAddress : String

/-- Where the audit store is kept. -/
structure Database where
  backend : String
  url : Option String
  maxConnections : Nat
  minConnections : Nat

/-- How the service logs. -/
structure Logging where
  level : String
  format : String

/-- A peer that reports on messages. -/
structure Peer where
  enabled : Bool
  url : String
  timeoutSeconds : Nat

/-- How name servers are asked. -/
structure NameServers where
  timeoutSeconds : Nat
  attempts : Nat

end Settings

/-- All settings. -/
structure Settings where
  server : Settings.Server
  database : Settings.Database
  logging : Settings.Logging
  contentScore : Settings.Peer
  reputation : Settings.Peer
  dns : Settings.NameServers
  policy : Policy

namespace Settings

/-! ## Shapes -/

/-- The settings of the listener. -/
def serverGroup : Group Server where
  default := ⟨"0.0.0.0:8080"⟩
  settings := [.of "bind_address" .text fun x s => { s with bindAddress := x }]

/-- The settings of the store. -/
def databaseGroup : Group Database where
  default := ⟨"postgres", none, 20, 1⟩
  settings := [
    .of "backend" .text fun x s => { s with backend := x },
    (Setting.of "url" (.optional .text) fun x s => { s with url := x }).inLists,
    .of "max_connections" (.natural (Nat.pow 2 32)) fun x s => { s with maxConnections := x },
    .of "min_connections" (.natural (Nat.pow 2 32)) fun x s => { s with minConnections := x }]

/-- The settings of the log. -/
def loggingGroup : Group Logging where
  default := ⟨"info", "text"⟩
  settings := [
    .of "level" .text fun x s => { s with level := x },
    .of "format" .text fun x s => { s with format := x }]

/-- The settings of a peer. -/
def peerGroup (url : String) : Group Peer where
  default := ⟨true, url, 8⟩
  settings := [
    .of "enabled" .bool fun x s => { s with enabled := x },
    .of "url" .text fun x s => { s with url := x },
    .of "timeout_secs" (.natural (Nat.pow 2 64)) fun x s => { s with timeoutSeconds := x }]

/-- The settings of the content score. -/
def contentScoreGroup : Group Peer := peerGroup "https://spamcheck.postmarkapp.com/filter"

/-- The settings of the reputation. -/
def reputationGroup : Group Peer := peerGroup "https://api.stopforumspam.org/api"

/-- The settings of name servers. -/
def dnsGroup : Group NameServers where
  default := ⟨5, 2⟩
  settings := [
    .of "timeout_secs" (.natural (Nat.pow 2 64)) fun x s => { s with timeoutSeconds := x },
    .of "attempts" (.natural (Nat.pow 2 64)) fun x s => { s with attempts := x }]

/-- The settings of the policy. -/
def policyGroup : Group Policy where
  default := .default
  settings := [
    .of "min_block_score" .float fun x p => { p with minBlockScore := x },
    .of "sfs_min_confidence" .float fun x p => { p with sfsMinConfidence := x },
    .of "test_mode" .bool fun x p => { p with testMode := x },
    .of "spf_fail_action" (.choice Action.names) fun x p => { p with spfFailAction := x },
    .of "spf_none_action" (.choice Action.names) fun x p => { p with spfNoneAction := x },
    .of "spf_invalid_action" (.choice Action.names) fun x p => { p with spfInvalidAction := x },
    .of "blocked_email_log_level" (.choice LogLevel.names)
      fun x p => { p with blockedLogLevel := x }]

/-- All settings, of which each group may be left out. -/
def group : Group Settings where
  default := ⟨serverGroup.default, databaseGroup.default, loggingGroup.default,
    contentScoreGroup.default, reputationGroup.default, dnsGroup.default, policyGroup.default⟩
  settings := [
    .of "server" serverGroup.read fun x s => { s with server := x },
    .of "database" databaseGroup.read fun x s => { s with database := x },
    .of "logging" loggingGroup.read fun x s => { s with logging := x },
    .of "postmark" contentScoreGroup.read fun x s => { s with contentScore := x },
    .of "stopforumspam" reputationGroup.read fun x s => { s with reputation := x },
    .of "dns" dnsGroup.read fun x s => { s with dns := x },
    .of "policy" policyGroup.read fun x s => { s with policy := x }]

/-! ## Loading -/

/-- The file that settings are read from. -/
inductive File where
  /-- There is none. -/
  | none
  /-- One was named, but there is none of this name. -/
  | missing
  | found (text : String)

/-- The entries of a file, unless it cannot be read; a byte-order mark at its start is no part of
the document. -/
def File.entries? : File → Option (List (String × Value))
  | none => some []
  | missing => Option.none
  | found text =>
    match text.toList with
    | '\ufeff' :: cs => Toml.table? (String.ofList cs)
    | _ => Toml.table? text

/-- The settings of a file with those of an environment on top, unless one of them cannot be
read. -/
def load? (file : File) (environment : List (String × String)) : Option Settings := do
  let entries ← file.entries?
  group.read (layer (ofEnvironment environment) (layer entries (.table [])))

/-- Loads settings. -/
def load (file : File) (environment : List (String × String)) : Except Failure Settings :=
  match load? file environment with
  | some s => .ok s
  | none => .error (.config "Failed to load config")

/-! ## Printing -/

/-- A peer as a value. -/
def Peer.toJson (p : Peer) : Json := Json.ofPairs [
  ("enabled", .bool p.enabled),
  ("url", .string p.url),
  ("timeout_secs", .ofInt p.timeoutSeconds)]

/-- All settings as a value. -/
def toJson (s : Settings) : Json := Json.ofPairs [
  ("server", Json.ofPairs [("bind_address", .string s.server.bindAddress)]),
  ("database", Json.ofPairs [
    ("backend", .string s.database.backend),
    ("url", .ofOption .string s.database.url),
    ("max_connections", .ofInt s.database.maxConnections),
    ("min_connections", .ofInt s.database.minConnections)]),
  ("logging", Json.ofPairs [
    ("level", .string s.logging.level),
    ("format", .string s.logging.format)]),
  ("postmark", s.contentScore.toJson),
  ("stopforumspam", s.reputation.toJson),
  ("dns", Json.ofPairs [
    ("timeout_secs", .ofInt s.dns.timeoutSeconds),
    ("attempts", .ofInt s.dns.attempts)]),
  ("policy", s.policy.toJson)]

end Settings

end SpamVerdict
