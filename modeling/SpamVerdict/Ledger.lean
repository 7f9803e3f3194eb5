set_option autoImplicit false

/-!
# Ledgers

A `Ledger` holds at most one value for each key; that no key stands twice is part of the type.
`get?` is its view, and there is one law for every operation on it.

Rows by ticket (SPEC_FULL §6, "unique key") and outcomes by message id (§14.6) are kept in ledgers.
-/

namespace SpamVerdict

/-- Values by key. -/
structure Ledger (κ α : Type) where
  entries : List (κ × α)
  nodup_keys : (entries.map (·.1)).Nodup

namespace Ledger

variable {κ α β γ : Type}

/-- The ledger without entries. -/
def empty : Ledger κ α := ⟨[], .nil⟩

instance : Inhabited (Ledger κ α) := ⟨empty⟩

theorem eq_of_entries_eq {l l' : Ledger κ α} (h : l.entries = l'.entries) : l = l' := by
  cases l
  cases l'
  cases h
  rfl

/-- The number of keys. -/
def size (l : Ledger κ α) : Nat := l.entries.length

/-- The keys of a part of a list are a part of its keys. -/
theorem nodup_keys_filter {entries : List (κ × α)} (p : κ × α → Bool)
    (h : (entries.map (·.1)).Nodup) : ((entries.filter p).map (·.1)).Nodup :=
  h.sublist (List.filter_sublist.map _)

/-- The entries that satisfy a test. -/
def keep (p : κ × α → Bool) (l : Ledger κ α) : Ledger κ α :=
  ⟨l.entries.filter p, nodup_keys_filter p l.nodup_keys⟩

/-- The ledger with other values under the same keys. -/
def map (f : α → β) (l : Ledger κ α) : Ledger κ β where
  entries := l.entries.map fun e => (e.1, f e.2)
  nodup_keys := by
    rw [List.map_map]
    exact l.nodup_keys

theorem map_map (f : α → β) (g : β → γ) (l : Ledger κ α) :
    (l.map f).map g = l.map fun x => g (f x) := by
  refine eq_of_entries_eq ?_
  simp [map]

theorem size_map (f : α → β) (l : Ledger κ α) : (l.map f).size = l.size := List.length_map _

theorem keep_map (f : α → β) (l : Ledger κ α) (p : κ × β → Bool) :
    (l.map f).keep p = (l.keep fun e => p (e.1, f e.2)).map f :=
  eq_of_entries_eq List.filter_map

variable [DecidableEq κ]

/-- The value under a key. -/
def get? (l : Ledger κ α) (k : κ) : Option α := (l.entries.find? (·.1 = k)).map (·.2)

/-- The ledger without a key. -/
def erase (l : Ledger κ α) (k : κ) : Ledger κ α := l.keep fun e => e.1 ≠ k

/-- The ledger with a value under a key, in place of the one it had. -/
def put (l : Ledger κ α) (k : κ) (x : α) : Ledger κ α where
  entries := (k, x) :: (l.erase k).entries
  nodup_keys := List.nodup_cons.2 ⟨by simp [erase, keep], (l.erase k).nodup_keys⟩

@[simp] theorem get?_empty (k : κ) : (empty : Ledger κ α).get? k = none := rfl

theorem get?_erase (l : Ledger κ α) (k j : κ) :
    (l.erase k).get? j = if k = j then none else l.get? j := by
  have h (es : List (κ × α)) : (es.filter fun e => e.1 ≠ k).find? (·.1 = j) =
      if k = j then none else es.find? (·.1 = j) := by
    induction es with
    | nil => simp
    | cons e es ih =>
      by_cases hk : e.1 = k <;> by_cases hj : e.1 = j <;> by_cases hkj : k = j <;> simp_all
  rw [get?, erase, keep, h]
  by_cases hkj : k = j <;> simp [get?, hkj]

theorem get?_put (l : Ledger κ α) (k j : κ) (x : α) :
    (l.put k x).get? j = if k = j then some x else l.get? j := by
  by_cases h : k = j
  · simp [get?, put, h]
  · have := get?_erase l k j
    simp_all [get?, put]

theorem get?_eq_some_iff {l : Ledger κ α} {k : κ} {x : α} :
    l.get? k = some x ↔ (k, x) ∈ l.entries := by
  have h (es : List (κ × α)) (hn : (es.map (·.1)).Nodup) :
      (es.find? (·.1 = k)).map (·.2) = some x ↔ (k, x) ∈ es := by
    induction es with
    | nil => simp
    | cons e es ih =>
      obtain ⟨i, y⟩ := e
      rw [List.map_cons, List.nodup_cons] at hn
      by_cases hi : i = k
      · subst hi
        have : (i, x) ∉ es := fun hm => hn.1 (List.mem_map.2 ⟨_, hm, rfl⟩)
        simp [this, eq_comm]
      · have : k ≠ i := fun h => hi h.symm
        simp [hi, this, ih hn.2]
  exact h l.entries l.nodup_keys

theorem mem_keys_iff {l : Ledger κ α} {k : κ} :
    k ∈ l.entries.map (·.1) ↔ ∃ x, l.get? k = some x := by
  simp [get?_eq_some_iff]

theorem get?_keep (p : κ × α → Bool) (l : Ledger κ α) (k : κ) :
    (l.keep p).get? k = (l.get? k).filter fun x => p (k, x) := by
  ext x
  simp [get?_eq_some_iff, keep, Option.filter_eq_some_iff]

theorem erase_map (f : α → β) (l : Ledger κ α) (k : κ) :
    (l.map f).erase k = (l.erase k).map f :=
  keep_map f l _

theorem put_map (f : α → β) (l : Ledger κ α) (k : κ) (x : α) :
    (l.map f).put k (f x) = (l.put k x).map f :=
  eq_of_entries_eq (congrArg (fun m : Ledger κ β => (k, f x) :: m.entries) (erase_map f l k))

theorem get?_map (f : α → β) (l : Ledger κ α) (k : κ) :
    (l.map f).get? k = (l.get? k).map f := by
  ext y
  simp only [get?_eq_some_iff, Option.map_eq_some_iff, map, List.mem_map, Prod.mk.injEq]
  constructor
  · rintro ⟨⟨k', x⟩, hx, rfl, rfl⟩
    exact ⟨x, hx, rfl⟩
  · rintro ⟨x, hx, rfl⟩
    exact ⟨(k, x), hx, rfl, rfl⟩

end Ledger

end SpamVerdict
