import SpamVerdict.Json.Record
set_option autoImplicit false

/-!
# Rows of the audit store (SPEC_FULL §6)

SPEC_FULL §6 lists the fields of the persisted record: the ticket as its key, the address of the
sender, whether the message counts as spam, the two scores and the outcome of the sender policy,
each of which may be missing, and the times of creation and of the last change.

A `Finding` is what a caller wants written and a `Row` what stands in the store.  Only the store
sets the times, so a caller cannot choose them.
-/

namespace SpamVerdict

/-- A point in time, in milliseconds. -/
abbrev Instant := Nat

/-- The number of a ticket; only positive numbers name tickets. -/
abbrev Ticket := Int

namespace Audit

/-- What a check found out about the message of a ticket. -/
structure Finding where
  ticket : Ticket
  email : String
  /-- The message would be blocked, whether or not it was. -/
  isSpam : Bool
  contentScore : Option Float
  reputation : Option Float
  /-- The name of the SPF outcome. -/
  spf : Option String

/-- A row: a finding with the times of the first and of the last write. -/
structure Row extends Finding where
  createdAt : Instant
  updatedAt : Instant

namespace Finding

/-- The parts of a finding in their order, by name. -/
def record : Json.Record Finding where
  default := ⟨0, "", false, none, none, none⟩
  fields := [
    .of .always "ticket_id" (.int (-Decimal.int64Bound) (Decimal.int64Bound - 1))
      fun x f => { f with ticket := x },
    .of .always "email" .text fun x f => { f with email := x },
    .of .always "is_spam" .bool fun x f => { f with isSpam := x },
    .of .inList "postmark_score" (.optional .float) fun x f => { f with contentScore := x },
    .of .inList "sfs_confidence" (.optional .float) fun x f => { f with reputation := x },
    .of .inList "spf_result" (.optional .text) fun x f => { f with spf := x }]

/-- The finding that a value holds. -/
def ofJson? (v : Json) : Option Finding := (record.read (.ofJson v)).toOption

/-- The parts of a finding as members of an object. -/
def members (f : Finding) : List (String × Json) := [
  ("ticket_id", .ofInt f.ticket),
  ("email", .string f.email),
  ("is_spam", .bool f.isSpam),
  ("postmark_score", .ofOption .ofFloat f.contentScore),
  ("sfs_confidence", .ofOption .ofFloat f.reputation),
  ("spf_result", .ofOption .string f.spf)]

end Finding

end Audit

end SpamVerdict
