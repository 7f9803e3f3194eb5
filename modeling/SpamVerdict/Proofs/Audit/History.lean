import SpamVerdict.Audit.Store
import SpamVerdict.Proofs.Transcript
set_option autoImplicit false

/-!
# What the audit store tells (SPEC_FULL §6, §8, §14.8)

Two kinds of writes with different rules meet in a row: `upsert` replaces what was found out,
`markSpam` raises the flag and leaves the rest.  Here the row of a ticket is told from the history
of the store alone, by rules that know no store (`Tells`, `Told`): the writes on the ticket that
succeeded are singled out (`writesOn`), and the last `upsert` among them, the marks after it and
the first write fix the row (`lookup_told`).

SPEC_FULL §8 asks that a row which is written comes back, and that a second write replaces and never
adds one.  The statement here is about every history, with writes that fail and writes on other
tickets among the rest.
-/

namespace SpamVerdict.Audit

/-! ## Writes -/

/-- The ticket that an operation writes on. -/
def Operation.written? : Operation → Option Ticket
  | upsert f => some f.ticket
  | markSpam ticket _ => some ticket
  | lookup _ => none

/-- An operation that only raises the flag. -/
def Operation.isMark : Operation → Bool
  | upsert _ => false
  | markSpam _ _ => true
  | lookup _ => false

/-- What was asked of a store, and its answers. -/
abbrev History := List (Entry Operation (Except Failure (Option Row)))

/-- The entry is a write on a ticket, and it succeeded. -/
def wrote (t : Ticket) (e : Entry Operation (Except Failure (Option Row))) : Bool :=
  e.asked.written? = some t && e.answer.isOk

/-- The writes on a ticket that succeeded, in order. -/
def writesOn (t : Ticket) (h : History) : History := h.filter (wrote t)

/-! ## Rules -/

/-- What the writes on a ticket tell about its message. -/
inductive Tells (t : Ticket) : History → Finding → Prop where
  /-- The last `upsert` tells everything, but that a mark after it raises the flag. -/
  | upserted {before marks : History} {w : Entry Operation (Except Failure (Option Row))}
      {f : Finding} (hw : w.asked = .upsert f) (hmarks : ∀ m ∈ marks, m.asked.isMark) :
      Tells t (before ++ w :: marks) { f with isSpam := !marks.isEmpty || f.isSpam }
  /-- Without an `upsert` the first mark gives the address, and nothing else is known. -/
  | marked {w : Entry Operation (Except Failure (Option Row))} {marks : History} {email : String}
      (hw : w.asked = .markSpam t email) (hmarks : ∀ m ∈ marks, m.asked.isMark) :
      Tells t (w :: marks) ⟨t, email, true, none, none, none⟩

/-- What the writes on a ticket tell about its row. -/
structure Told (t : Ticket) (ws : History) (row : Row) : Prop where
  ticket : row.ticket = t
  finding : Tells t ws row.toFinding
  /-- The row is as old as the first write. -/
  created : ws.head?.map (·.time) = some row.createdAt
  updated : ws.getLast?.map (·.time) = some row.updatedAt

/-- Whether there is a row, and what it tells. -/
def Account (t : Ticket) (ws : History) : Option Row → Prop
  | none => ws = []
  | some row => Told t ws row

/-! ## One write -/

/-- The row that a write on a ticket leaves there, given the one that it finds. -/
def Operation.rowAfter (now : Instant) (old : Option Row) : Operation → Option Row
  | upsert f => some { f with createdAt := (old.map (·.createdAt)).getD now, updatedAt := now }
  | markSpam ticket email =>
    match old with
    | some row => some { row with isSpam := true, updatedAt := now }
    | none => some ⟨⟨ticket, email, true, none, none, none⟩, now, now⟩
  | lookup _ => old

section Steps

variable (s : Store) (now : Instant)

theorem lookup_write (ticket : Ticket) (row : Row) (t : Ticket) :
    (s.write ticket row).2.lookup t = if ticket = t ∧ 0 < t then some row else s.lookup t := by
  unfold Store.write
  by_cases hticket : ticket ≤ 0
  · have hne : ¬ (ticket = t ∧ 0 < t) := fun h => Int.not_lt.2 hticket (h.1 ▸ h.2)
    rw [if_pos hticket, if_neg hne]
  · rw [if_neg hticket, Store.lookup, Ledger.get?_put]
    by_cases ht : ticket = t
    · have hpos : 0 < t := ht ▸ Int.not_le.1 hticket
      rw [if_pos ht, if_pos ⟨ht, hpos⟩]
    · rw [if_neg ht, if_neg fun h => ht h.1]
      rfl

/-- A step changes the row of a ticket only by a write on it, and looks at no other row. -/
theorem lookup_step (op : Operation) (t : Ticket) :
    (s.step now op).2.lookup t =
      if op.written? = some t ∧ 0 < t then op.rowAfter now (s.lookup t) else s.lookup t := by
  cases op with
  | upsert f =>
    have hwrite := lookup_write s f.ticket (s.rowOf now f) t
    simp only [Operation.written?, Option.some.injEq]
    refine hwrite.trans ?_
    split
    · next h => rw [Store.rowOf, h.1, Operation.rowAfter]
    · rfl
  | markSpam ticket email =>
    have hwrite := lookup_write s ticket (s.markedRow now ticket email) t
    simp only [Operation.written?, Option.some.injEq]
    refine hwrite.trans ?_
    split
    · next h =>
      rw [Store.markedRow, h.1]
      cases s.lookup t <;> rfl
    · rfl
  | lookup ticket => simp [Operation.written?, Store.step]

/-- A write is refused exactly if its number names no ticket. -/
theorem step_of_written {op : Operation} {t : Ticket} (hop : op.written? = some t) :
    (t ≤ 0 → s.step now op = (.error (invalidTicket t), s)) ∧
      ((s.step now op).1.isOk = true ↔ 0 < t) := by
  cases op with
  | upsert f =>
    obtain rfl := Option.some.inj hop
    unfold Store.step Store.upsert Store.write
    by_cases ht : f.ticket ≤ 0
    · simp [ht, Except.map, Except.isOk, Except.toBool]
    · have hpos : 0 < f.ticket := Int.not_le.1 ht
      simp [ht, hpos, Except.map, Except.isOk, Except.toBool]
  | markSpam ticket email =>
    obtain rfl := Option.some.inj hop
    unfold Store.step Store.markSpam Store.write
    by_cases ht : ticket ≤ 0
    · simp [ht, Except.map, Except.isOk, Except.toBool]
    · have hpos : 0 < ticket := Int.not_le.1 ht
      simp [ht, hpos, Except.map, Except.isOk, Except.toBool]
  | lookup ticket => cases hop

theorem wrote_step_iff (op : Operation) (t : Ticket) :
    wrote t ⟨now, op, (s.step now op).1⟩ = true ↔ op.written? = some t ∧ 0 < t := by
  unfold wrote
  rw [Bool.and_eq_true, decide_eq_true_iff]
  exact and_congr_right fun hop => (step_of_written s now hop).2

end Steps

/-! ## All writes -/

/-- One more mark raises the flag and leaves the rest. -/
theorem Tells.mark {t : Ticket} {ws : History} {f : Finding} (h : Tells t ws f)
    {w : Entry Operation (Except Failure (Option Row))} (hw : w.asked.isMark = true) :
    Tells t (ws ++ [w]) { f with isSpam := true } := by
  cases h with
  | @upserted before marks u g hu hmarks =>
    have hall : ∀ m ∈ marks ++ [w], m.asked.isMark :=
      List.forall_mem_append.2 ⟨hmarks, List.forall_mem_singleton.2 hw⟩
    have hsome : (marks ++ [w]).isEmpty = false := by cases marks <;> rfl
    have htells : Tells t (before ++ u :: (marks ++ [w])) _ := .upserted hu hall
    rw [hsome] at htells
    rw [List.append_assoc, List.cons_append]
    exact htells
  | @marked u marks email hu hmarks =>
    have hall : ∀ m ∈ marks ++ [w], m.asked.isMark :=
      List.forall_mem_append.2 ⟨hmarks, List.forall_mem_singleton.2 hw⟩
    exact .marked hu hall

theorem Told.head?_append {t : Ticket} {ws : History} {row : Row} (h : Told t ws row)
    (rest : History) : (ws ++ rest).head?.map (·.time) = some row.createdAt := by
  have hcreated := h.created
  cases ws with
  | nil => cases hcreated
  | cons w ws => exact hcreated

/-- One more write leaves the row that the rules ask for. -/
theorem Account.write {t : Ticket} {ws : History} {old : Option Row} (h : Account t ws old)
    (w : Entry Operation (Except Failure (Option Row))) (hw : w.asked.written? = some t) :
    Account t (ws ++ [w]) (w.asked.rowAfter w.time old) := by
  have hlast : (ws ++ [w]).getLast?.map (·.time) = some w.time := by simp
  cases hasked : w.asked with
  | upsert f =>
    rw [hasked] at hw
    have hticket : f.ticket = t := Option.some.inj hw
    have htells : Tells t (ws ++ [w]) f := .upserted hasked (List.forall_mem_nil _)
    cases old with
    | none =>
      obtain rfl : ws = [] := h
      exact ⟨hticket, htells, rfl, hlast⟩
    | some row => exact ⟨hticket, htells, h.head?_append _, hlast⟩
  | markSpam ticket email =>
    rw [hasked] at hw
    obtain rfl : ticket = t := Option.some.inj hw
    cases old with
    | none =>
      obtain rfl : ws = [] := h
      exact ⟨rfl, .marked hasked (List.forall_mem_nil _), rfl, hlast⟩
    | some row =>
      have hmark : w.asked.isMark = true := by rw [hasked]; rfl
      exact ⟨h.ticket, h.finding.mark hmark, h.head?_append _, hlast⟩
  | lookup ticket =>
    rw [hasked] at hw
    cases hw

theorem writesOn_append (t : Ticket) (h rest : History) :
    writesOn t (h ++ rest) = writesOn t h ++ writesOn t rest :=
  List.filter_append _ _

theorem Store.run_eq_stateAfter (s : Store) (ops : List (Instant × Operation)) :
    s.run ops = stateAfter Store.step s ops := by
  induction ops generalizing s with
  | nil => rfl
  | cons op ops ih => exact ih _

/-- After every run the rows are the ones that the history tells. -/
theorem account_run (ops : List (Instant × Operation)) (t : Ticket) :
    Account t (writesOn t (transcript Store.step .empty ops))
      ((Store.run .empty ops).lookup t) := by
  rw [Store.run_eq_stateAfter]
  have hstart : Account t (writesOn t []) (Store.lookup .empty t) := rfl
  refine transcript_induction (P := fun h s => Account t (writesOn t h) (Store.lookup s t))
    hstart ?_ ops
  intro h s now op haccount
  have hwrote := wrote_step_iff s now op t
  rw [writesOn_append, lookup_step]
  by_cases hop : op.written? = some t ∧ 0 < t
  · have hnew : writesOn t [⟨now, op, (s.step now op).1⟩] = [⟨now, op, (s.step now op).1⟩] :=
      List.filter_eq_self.2 (List.forall_mem_singleton.2 (hwrote.2 hop))
    rw [if_pos hop, hnew]
    exact haccount.write ⟨now, op, (s.step now op).1⟩ hop.1
  · have hnew : writesOn t [⟨now, op, (s.step now op).1⟩] = [] :=
      List.filter_eq_nil_iff.2 (List.forall_mem_singleton.2 (mt hwrote.1 hop))
    rw [if_neg hop, hnew, List.append_nil]
    exact haccount

/-- The row of a ticket stays the same when everything but the writes on it is left out. -/
theorem lookup_run_filter {s s' : Store} {t : Ticket} (h : s.lookup t = s'.lookup t)
    (ops : List (Instant × Operation)) :
    (s.run ops).lookup t = (s'.run (ops.filter (·.2.written? = some t))).lookup t := by
  induction ops generalizing s s' with
  | nil => exact h
  | cons op ops ih =>
    by_cases hop : op.2.written? = some t
    · have hnext : (s.step op.1 op.2).2.lookup t = (s'.step op.1 op.2).2.lookup t := by
        rw [lookup_step, lookup_step, h]
      rw [List.filter_cons_of_pos (by simpa using hop)]
      exact ih hnext
    · have hnext : (s.step op.1 op.2).2.lookup t = s'.lookup t := by
        rw [lookup_step, if_neg fun hwritten => hop hwritten.1, h]
      rw [List.filter_cons_of_neg (by simpa using hop)]
      exact ih hnext

/-- For every run of the store and every ticket: a write fails exactly if its number names no
ticket, and then changes nothing; a look-up changes nothing either and finds a row exactly if some
write on the ticket has succeeded; the row is told by these writes, and whatever was done on other
tickets does not matter. -/
theorem lookup_told (ops : List (Instant × Operation)) (t : Ticket) :
    let s := Store.run .empty ops
    let ws := writesOn t (transcript Store.step .empty ops)
    (∀ now op, op.written? = some t →
        ((∃ failure, (s.step now op).1 = .error failure) ↔ t ≤ 0) ∧
          (t ≤ 0 → s.step now op = (.error (invalidTicket t), s))) ∧
      (∀ now, s.step now (.lookup t) = (.ok (s.lookup t), s)) ∧
      (s.lookup t = none ↔ ∀ e ∈ transcript Store.step .empty ops, wrote t e = false) ∧
      (∀ row, s.lookup t = some row → Told t ws row) ∧
      s.lookup t = (Store.run .empty (ops.filter (·.2.written? = some t))).lookup t := by
  intro s ws
  have haccount : Account t ws (s.lookup t) := account_run ops t
  refine ⟨fun now op hop => ⟨?_, (step_of_written s now hop).1⟩, fun _ => rfl, ?_, ?_,
    lookup_run_filter rfl ops⟩
  · have hok := (step_of_written s now hop).2
    rw [← Int.not_lt, ← hok]
    cases (s.step now op).1 with
    | error failure => simp [Except.isOk, Except.toBool]
    | ok row => simp [Except.isOk, Except.toBool]
  · have hnone : ws = [] ↔ ∀ e ∈ transcript Store.step .empty ops, wrote t e = false := by
      simp [ws, writesOn]
    rw [← hnone]
    cases hrow : s.lookup t with
    | none =>
      rw [hrow] at haccount
      exact ⟨fun _ => haccount, fun _ => rfl⟩
    | some row =>
      rw [hrow] at haccount
      refine ⟨fun h => (by cases h), fun hws => ?_⟩
      have hcreated := haccount.created
      rw [hws] at hcreated
      cases hcreated
  · intro row hrow
    rw [hrow] at haccount
    exact haccount

/-- Operations on three numbers, of which one names no ticket. -/
def interleaved : List (Instant × Operation) := [
  (1, .upsert ⟨7, "first@example.test", true, none, none, some "fail"⟩),
  (2, .markSpam 9 "other@example.test"),
  (3, .markSpam 7 "ignored@example.test"),
  (4, .upsert ⟨7, "second@example.test", false, none, none, none⟩),
  (5, .upsert ⟨0, "nobody@example.test", true, none, none, none⟩),
  (6, .markSpam 7 "ignored@example.test")]

theorem lookup_told_interleaved : ∃ row, (Store.run .empty interleaved).lookup 7 = some row ∧
    row.email = "second@example.test" ∧ row.isSpam = true ∧ row.createdAt = 1 ∧
      Told 7 (writesOn 7 (transcript Store.step .empty interleaved)) row :=
  ⟨_, rfl, rfl, rfl, rfl, (lookup_told interleaved 7).2.2.2.1 _ rfl⟩

end SpamVerdict.Audit
