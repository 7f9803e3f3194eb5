import SpamVerdict.Audit.Backend
set_option autoImplicit false

/-!
# Laws of audit stores (SPEC_FULL §6, §14.7)

SPEC_FULL §6 and §14.7 rely on an audit store in two ways: a question and a write that fails leave
every row as it is (`Keeps`), and a finding that is written can be read afterwards, under its own
ticket and no other (`Lawful`).  Rows in memory obey these laws, and a question or a failed write
does not even touch them otherwise.  A repository on a server obeys them if the server does
(`lawful_backend`): a statement that fails is undone as a whole, and the row that an insertion gives
back holds what was inserted and is the row of the table.

Two columns of the table are texts of a bounded width.  A server may refuse a wider text or cut it,
so of such texts the laws say nothing (`Row.Holds`).
-/

namespace SpamVerdict.Audit

/-! ## Laws -/

/-- How many characters the address of a sender has at most in the table of a server. -/
def emailWidth : Nat := 255

/-- How many characters the name of an SPF outcome has at most in the table of a server. -/
def spfWidth : Nat := 16

/-- A row holds a finding.  Nothing is said of texts that are too wide for a table. -/
structure Row.Holds (row : Row) (f : Finding) : Prop where
  ticket : row.ticket = f.ticket
  email (hwidth : f.email.length ≤ emailWidth) : row.email = f.email
  isSpam : row.isSpam = f.isSpam
  contentScore : row.contentScore = f.contentScore
  reputation : row.reputation = f.reputation
  spf (hwidth : ∀ text ∈ f.spf, text.length ≤ spfWidth) : row.spf = f.spf

theorem Row.holds_toFinding (row : Row) : row.Holds row.toFinding :=
  ⟨rfl, fun _ => rfl, rfl, rfl, rfl, fun _ => rfl⟩

section Laws

variable {σ β : Type} [Repository σ]

/-- Whatever is asked, and whatever write fails, a view shows the same of the store as before. -/
structure Keeps (view : σ → β) : Prop where
  lookup (s : σ) (ticket : Ticket) : view (Repository.lookup s ticket).2 = view s
  health (s : σ) : view (Repository.health s).2 = view s
  upsert {s s' : σ} {now : Instant} {f : Finding} {failure : Failure}
    (hfailed : Repository.upsert s now f = (.error failure, s')) : view s' = view s
  markSpam {s s' : σ} {now : Instant} {ticket : Ticket} {email : String} {failure : Failure}
    (hfailed : Repository.markSpam s now ticket email = (.error failure, s')) : view s' = view s

/-- A store of which `rows` shows the rows: it keeps them, and a row that it makes of a finding holds
the finding and is the row of its ticket from then on. -/
structure Lawful (rows : σ → Ticket → Option Row) : Prop extends Keeps rows where
  stored {s s' : σ} {now : Instant} {f : Finding} {row : Row}
    (htaken : Repository.upsert s now f = (.ok row, s')) :
    row.Holds f ∧
      ∀ ticket, rows s' ticket = if f.ticket = ticket then some row else rows s ticket

end Laws

/-! ## Rows in memory -/

namespace Store

variable (s : Store) (now : Instant)

theorem write_of_nonpos {ticket : Ticket} (hticket : ticket ≤ 0) (row : Row) :
    s.write ticket row = (.error (invalidTicket ticket), s) := by
  rw [write, if_pos hticket]

/-- A write on a ticket that there is succeeds. -/
theorem write_of_pos {ticket : Ticket} (hticket : 0 < ticket) (row : Row) :
    s.write ticket row = (.ok row, s.put ticket row) := by
  rw [write, if_neg (Int.not_le.2 hticket)]

theorem upsert_of_pos {f : Finding} (hf : 0 < f.ticket) :
    s.upsert now f = (.ok (s.rowOf now f), s.put f.ticket (s.rowOf now f)) :=
  s.write_of_pos hf _

variable {s}

theorem eq_of_write_error {s' : Store} {ticket : Ticket} {row : Row} {failure : Failure}
    (hfailed : s.write ticket row = (.error failure, s')) : s' = s := by
  by_cases hticket : ticket ≤ 0
  · rw [write_of_nonpos s hticket] at hfailed
    exact (congrArg Prod.snd hfailed).symm
  · rw [write_of_pos s (Int.not_le.1 hticket)] at hfailed
    cases hfailed

theorem lookup_of_write_ok {s' : Store} {ticket : Ticket} {row row' : Row}
    (htaken : s.write ticket row = (.ok row', s')) :
    row = row' ∧
      ∀ other, s'.lookup other = if ticket = other then some row' else s.lookup other := by
  by_cases hticket : ticket ≤ 0
  · rw [write_of_nonpos s hticket] at htaken
    cases htaken
  · rw [write_of_pos s (Int.not_le.1 hticket)] at htaken
    cases htaken
    exact ⟨rfl, fun other => Ledger.get?_put _ _ _ _⟩

theorem stored_of_upsert_ok {s' : Store} {now : Instant} {f : Finding} {row : Row}
    (htaken : s.upsert now f = (.ok row, s')) :
    row.Holds f ∧
      ∀ ticket, s'.lookup ticket = if f.ticket = ticket then some row else s.lookup ticket := by
  obtain ⟨rfl, hlookup⟩ := lookup_of_write_ok htaken
  exact ⟨(s.rowOf now f).holds_toFinding, hlookup⟩

end Store

/-- Nothing at all changes in memory when a question is asked or a write fails. -/
theorem keeps_id_store : Keeps (id : Store → Store) where
  lookup _ _ := rfl
  health _ := rfl
  upsert hfailed := Store.eq_of_write_error hfailed
  markSpam hfailed := Store.eq_of_write_error hfailed

theorem lawful_store : Lawful Store.lookup where
  lookup _ _ := rfl
  health _ := rfl
  upsert hfailed := by rw [Store.eq_of_write_error hfailed]
  markSpam hfailed := by rw [Store.eq_of_write_error hfailed]
  stored htaken := Store.stored_of_upsert_ok htaken

/-! ## Rows on a server -/

namespace Backend

variable {σ : Type}

/-- The rows of a backend, where `table` shows those of its server. -/
def rows (table : σ → Ticket → Option Row) : Backend σ → Ticket → Option Row
  | memory s => s.lookup
  | database server => table server

/-- What a backend in memory answers, the store in memory answers. -/
theorem exists_of_memory {α : Type} {outcome : α × Store} {answer : α} {b : Backend σ}
    (h : (outcome.1, memory outcome.2) = (answer, b)) :
    ∃ s, outcome = (answer, s) ∧ b = memory s := by
  obtain ⟨hanswer, hb⟩ := Prod.mk.inj h
  exact ⟨outcome.2, Prod.ext hanswer rfl, hb.symm⟩

variable {server : σ} {ticket : Ticket} {outcome : Except String Row × σ} {b : Backend σ}

/-- A write on a server fails before the server is asked, or because the server says so. -/
theorem write_eq_error {failure : Failure}
    (hfailed : write server ticket outcome = (.error failure, b)) :
    b = database server ∨ ∃ text server', outcome = (.error text, server') ∧
      b = database server' := by
  unfold write at hfailed
  split at hfailed
  · exact .inl (congrArg Prod.snd hfailed).symm
  · obtain ⟨_ | row, server'⟩ := outcome
    · exact .inr ⟨_, server', rfl, (congrArg Prod.snd hfailed).symm⟩
    · cases hfailed

/-- A row that is taken was given back by the server. -/
theorem write_eq_ok {row : Row} (htaken : write server ticket outcome = (.ok row, b)) :
    ∃ server', outcome = (.ok row, server') ∧ b = database server' := by
  unfold write at htaken
  split at htaken
  · cases htaken
  · obtain ⟨_ | row', server'⟩ := outcome
    · cases htaken
    · cases htaken
      exact ⟨server', rfl, rfl⟩

end Backend

section Servers

variable {σ : Type} [Server σ]

/-- A server of which `table` shows the rows: a statement that fails, or only asks, changes none of
them, and the row that an insertion gives back holds what was inserted and is the row of its ticket
from then on. -/
structure Server.Lawful (table : σ → Ticket → Option Row) : Prop where
  select (s : σ) (ticket : Ticket) : table (Server.select s ticket).2 = table s
  ping (s : σ) : table (Server.ping s).2 = table s
  insert_error {s s' : σ} {now : Instant} {f : Finding} {text : String}
    (hfailed : Server.insert s now f = (.error text, s')) : table s' = table s
  flag_error {s s' : σ} {now : Instant} {ticket : Ticket} {email : String} {text : String}
    (hfailed : Server.flag s now ticket email = (.error text, s')) : table s' = table s
  insert_ok {s s' : σ} {now : Instant} {f : Finding} {row : Row}
    (htaken : Server.insert s now f = (.ok row, s')) :
    row.Holds f ∧
      ∀ ticket, table s' ticket = if f.ticket = ticket then some row else table s ticket

/-- Over a lawful server a backend is lawful, wherever its rows are. -/
theorem lawful_backend {table : σ → Ticket → Option Row} (h : Server.Lawful table) :
    Lawful (Backend.rows table) where
  lookup b ticket := by
    cases b with
    | memory s => rfl
    | database server =>
      simp only [Repository.lookup]
      split
      · rfl
      · exact h.select server ticket
  health b := by
    cases b with
    | memory s => rfl
    | database server => exact h.ping server
  upsert {b b' now f failure} hfailed := by
    cases b with
    | memory s =>
      obtain ⟨s', hwrite, rfl⟩ := Backend.exists_of_memory hfailed
      rw [Store.eq_of_write_error hwrite]
    | database server =>
      obtain rfl | ⟨text, server', hinsert, rfl⟩ := Backend.write_eq_error hfailed
      · rfl
      · exact h.insert_error hinsert
  markSpam {b b' now ticket email failure} hfailed := by
    cases b with
    | memory s =>
      obtain ⟨s', hwrite, rfl⟩ := Backend.exists_of_memory hfailed
      rw [Store.eq_of_write_error hwrite]
    | database server =>
      obtain rfl | ⟨text, server', hflag, rfl⟩ := Backend.write_eq_error hfailed
      · rfl
      · exact h.flag_error hflag
  stored {b b' now f row} htaken := by
    cases b with
    | memory s =>
      obtain ⟨s', hupsert, rfl⟩ := Backend.exists_of_memory htaken
      exact Store.stored_of_upsert_ok hupsert
    | database server =>
      obtain ⟨server', hinsert, rfl⟩ := Backend.write_eq_ok htaken
      exact h.insert_ok hinsert

end Servers

end SpamVerdict.Audit
