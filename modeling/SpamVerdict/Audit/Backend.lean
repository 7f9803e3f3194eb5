import SpamVerdict.Audit.Repository
set_option autoImplicit false

/-!
# Backends of the audit store (SPEC_FULL §13)

SPEC_FULL §13 names two backends: rows are kept in memory or in the table of a database server.
What a server does with a statement is not for this program to say, so a `Server` is whatever
carries out the statements of a repository, each of which may fail with a text of its own.  On top
of one, the repository checks the number of a ticket before anything is asked, and turns the texts
of the server into failures.

A server is reached by connecting to it and preparing its table; `Backend.connect` does that for
the backend that the settings name.  The statements themselves, and the pool of connections that
they run on, are not taken apart any further: what is relied on of them is stated as laws where it
is used.
-/

namespace SpamVerdict.Audit

/-- The statements of a repository, carried out by a database server: what comes back, and the
server behind it. -/
class Server (σ : Type) where
  /-- Makes the table, unless there is one. -/
  migrate (s : σ) : Except String Unit × σ
  /-- Inserts a row; of one that is there already, everything but the time of creation is
  replaced. -/
  insert (s : σ) (now : Instant) (f : Finding) : Except String Row × σ
  /-- Raises the flag of a row, or inserts one that holds nothing else. -/
  flag (s : σ) (now : Instant) (ticket : Ticket) (email : String) : Except String Row × σ
  select (s : σ) (ticket : Ticket) : Except String (Option Row) × σ
  /-- A statement that asks for nothing. -/
  ping (s : σ) : Except String Unit × σ

/-- There is no server to talk to. -/
instance : Server Empty := ⟨nofun, nofun, nofun, nofun, nofun⟩

/-- How a server is reached: by its address, and with bounds on the number of connections. -/
abbrev Connect (σ : Type) := (url : String) → (maximum minimum : Nat) → Except String σ

/-- An audit store in memory, or on a server. -/
inductive Backend (σ : Type) where
  | memory (rows : Store)
  | database (server : σ)

namespace Backend

variable {σ α : Type}

/-- What comes back from a server, as the answer of a repository; `describe` puts the text of an
error into words. -/
def answered (describe : String → String) (outcome : Except String α × σ) :
    Except Failure α × Backend σ :=
  (outcome.1.mapError fun text => .database (describe text), .database outcome.2)

/-- A write on the server, if the number names a ticket. -/
def write (server : σ) (ticket : Ticket) (outcome : Except String Row × σ) :
    Except Failure Row × Backend σ :=
  if ticket ≤ 0 then (.error (invalidTicket ticket), .database server) else answered id outcome

instance [Server σ] : Repository (Backend σ) where
  upsert
    | memory rows, now, f =>
      let (answer, rows) := rows.upsert now f
      (answer, memory rows)
    | database server, now, f => write server f.ticket (Server.insert server now f)
  markSpam
    | memory rows, now, ticket, email =>
      let (answer, rows) := rows.markSpam now ticket email
      (answer, memory rows)
    | database server, now, ticket, email =>
      write server ticket (Server.flag server now ticket email)
  lookup
    | memory rows, ticket => (.ok (rows.lookup ticket), memory rows)
    | database server, ticket =>
      if ticket ≤ 0 then (.ok none, database server) else answered id (Server.select server ticket)
  health
    | memory rows => (.ok (), memory rows)
    | database server => answered ("Health check failed: " ++ ·) (Server.ping server)

/-- Opens the audit store of a backend. -/
def connect [Server σ] (reach : Connect σ) (backend : String) (url : Option String)
    (maximum minimum : Nat) : Except Failure (Backend σ) :=
  match backend, url with
  | "memory", _ => .ok (memory .empty)
  | "postgres", none => .error (.config "Database URL required for PostgreSQL")
  | "postgres", some url => do
    let server ← (reach url maximum minimum).mapError fun text =>
      .database ("Failed to connect: " ++ text)
    let (answer, store) := answered ("Migration failed: " ++ ·) (Server.migrate server)
    answer.map fun _ => store
  | other, _ => .error (.config ("Unsupported database backend: " ++ other))

end Backend

end SpamVerdict.Audit
