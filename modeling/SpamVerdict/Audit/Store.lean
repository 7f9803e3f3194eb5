import SpamVerdict.Audit.Row
import SpamVerdict.Failure
import SpamVerdict.Ledger
set_option autoImplicit false

/-!
# The audit store in memory (SPEC_FULL §6, §14.7, §14.8)

SPEC_FULL §6 has one row for a ticket, in which the last evaluation wins.  §14.7 makes a write on a
number that is not positive an error that writes nothing, and by §14.8 an operator may mark a ticket
as spam, with a row made for it if there is none.

A store holds at most one row for a ticket.  `upsert` replaces everything but the time of
creation; `markSpam` only raises the flag of a row, or opens one that holds nothing else.  A write
on a number that names no ticket fails and leaves the store as it is, and no other write fails.
Reading is no operation that can fail here either; that a store may be out of reach is for
`Audit.Repository` to allow.
-/

namespace SpamVerdict.Audit

/-- The rows by ticket. -/
abbrev Store := Ledger Ticket Row

/-- Why a write on a number fails that names no ticket. -/
def invalidTicket (ticket : Ticket) : Failure :=
  .validation ("Invalid ticket id: " ++ toString ticket)

namespace Store

/-- The row of a ticket. -/
def lookup (s : Store) (ticket : Ticket) : Option Row := s.get? ticket

/-- The row that a finding leaves behind. -/
def rowOf (s : Store) (now : Instant) (f : Finding) : Row :=
  { f with
    createdAt := ((s.lookup f.ticket).map (·.createdAt)).getD now
    updatedAt := now }

/-- The row of a ticket that was marked as spam. -/
def markedRow (s : Store) (now : Instant) (ticket : Ticket) (email : String) : Row :=
  match s.lookup ticket with
  | some row => { row with isSpam := true, updatedAt := now }
  | none => ⟨⟨ticket, email, true, none, none, none⟩, now, now⟩

/-- Writes a row for a ticket, if the number names one. -/
def write (s : Store) (ticket : Ticket) (row : Row) : Except Failure Row × Store :=
  if ticket ≤ 0 then (.error (invalidTicket ticket), s) else (.ok row, s.put ticket row)

/-- Opens or replaces the row of a ticket. -/
def upsert (s : Store) (now : Instant) (f : Finding) : Except Failure Row × Store :=
  s.write f.ticket (s.rowOf now f)

/-- Marks a ticket as spam. -/
def markSpam (s : Store) (now : Instant) (ticket : Ticket) (email : String) :
    Except Failure Row × Store :=
  s.write ticket (s.markedRow now ticket email)

end Store

/-! ## Operations in a row -/

/-- An operation on a store. -/
inductive Operation where
  | upsert (f : Finding)
  | markSpam (ticket : Ticket) (email : String)
  | lookup (ticket : Ticket)

namespace Store

/-- The answer to one operation, and the store behind it. -/
def step (s : Store) (now : Instant) : Operation → Except Failure (Option Row) × Store
  | .upsert f =>
    let (answer, s) := s.upsert now f
    (answer.map some, s)
  | .markSpam ticket email =>
    let (answer, s) := s.markSpam now ticket email
    (answer.map some, s)
  | .lookup ticket => (.ok (s.lookup ticket), s)

/-- The store behind operations at their times. -/
def run (s : Store) (operations : List (Instant × Operation)) : Store :=
  operations.foldl (fun s o => (s.step o.1 o.2).2) s

end Store

end SpamVerdict.Audit
