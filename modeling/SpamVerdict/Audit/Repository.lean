import SpamVerdict.Audit.Store
set_option autoImplicit false

/-!
# Audit stores as a checker sees them (SPEC_FULL §6, §13)

SPEC_FULL §6 keeps one row for a ticket behind four operations, and §13 leaves open where.  A
checker knows no more of its audit store than these operations (`Repository`).  Each of them may
fail, for reasons of the store, and each may leave the store in another state, a question too: a
connection may be gone behind it.  What a failed operation must not do, namely change a row, is no
part of the interface but a law about it.

Rows that are kept in memory are a repository that can always be asked.
-/

namespace SpamVerdict.Audit

/-- The operations of an audit store: the answer, and the store behind it. -/
class Repository (σ : Type) where
  /-- Opens or replaces the row of a ticket. -/
  upsert (s : σ) (now : Instant) (f : Finding) : Except Failure Row × σ
  /-- Marks a ticket as spam. -/
  markSpam (s : σ) (now : Instant) (ticket : Ticket) (email : String) : Except Failure Row × σ
  /-- The row of a ticket. -/
  lookup (s : σ) (ticket : Ticket) : Except Failure (Option Row) × σ
  /-- Whether the store can be asked. -/
  health (s : σ) : Except Failure Unit × σ

instance : Repository Store where
  upsert := Store.upsert
  markSpam := Store.markSpam
  lookup s ticket := (.ok (s.lookup ticket), s)
  health s := (.ok (), s)

end SpamVerdict.Audit
