import Mathlib.Data.String.Basic
import SpamVerdict.Json.Basic
set_option autoImplicit false

/-!
# Several members put into an object (SPEC_FULL §14.9)

`insertAll` puts values under keys one after the other.  Values under different keys can be put in
any order (`insert_comm`), so values put under the same keys before are gone without a trace, in
whatever order they were put (`insertAll_insertAll`), and every other key keeps what it has
(`get?_insertAll_of_not_mem`).  The members need not be in the order of their keys for this.
-/

namespace SpamVerdict.Json.Members

/-! ## One member -/

section Insert

variable {key k : String} (value v : Json) (rest : Members)

theorem insert_cons_self : insert key value ((key, v) :: rest) = (key, value) :: rest := by
  rw [insert, if_pos rfl]

theorem insert_cons_of_lt (h : key < k) :
    insert key value ((k, v) :: rest) = (key, value) :: (k, v) :: rest := by
  rw [insert, if_neg h.ne', if_pos h]

theorem insert_cons_of_gt (h : k < key) :
    insert key value ((k, v) :: rest) = (k, v) :: insert key value rest := by
  rw [insert, if_neg h.ne, if_neg h.asymm]

end Insert

theorem insert_comm_of_lt {j k : String} (hjk : j < k) (x y : Json) (m : Members) :
    insert j x (insert k y m) = insert k y (insert j x m) := by
  induction m with
  | nil =>
    have hj : insert j x [(k, y)] = (j, x) :: insert k y [] := insert_cons_of_lt x y [] hjk
    have hk : insert k y [(j, x)] = (j, x) :: insert k y [] := insert_cons_of_gt y x [] hjk
    exact hj.trans hk.symm
  | cons entry rest ih =>
    obtain ⟨i, v⟩ := entry
    rcases lt_trichotomy i j with hij | rfl | hji
    · -- Both keys belong behind the first member.
      rw [insert_cons_of_gt y v rest (hij.trans hjk), insert_cons_of_gt x v _ hij,
        insert_cons_of_gt x v rest hij, insert_cons_of_gt y v _ (hij.trans hjk), ih]
    · rw [insert_cons_of_gt y v rest hjk, insert_cons_self, insert_cons_self,
        insert_cons_of_gt y x rest hjk]
    · -- The smaller key belongs in front, whatever becomes of the larger one.
      rw [insert_cons_of_lt x v rest hji, insert_cons_of_gt y x _ hjk]
      rcases lt_trichotomy i k with hik | rfl | hki
      · rw [insert_cons_of_gt y v rest hik, insert_cons_of_lt x v _ hji]
      · rw [insert_cons_self, insert_cons_of_lt x y rest hji]
      · rw [insert_cons_of_lt y v rest hki, insert_cons_of_lt x y _ hjk]

theorem insert_comm {j k : String} (hjk : j ≠ k) (x y : Json) (m : Members) :
    insert j x (insert k y m) = insert k y (insert j x m) := by
  rcases lt_or_gt_of_ne hjk with h | h
  · exact insert_comm_of_lt h x y m
  · exact (insert_comm_of_lt h y x m).symm

/-! ## Several members -/

/-- The members with values put under keys, one after the other. -/
def insertAll (pairs : List (String × Json)) (m : Members) : Members :=
  pairs.foldl (fun m p => m.insert p.1 p.2) m

theorem insertAll_cons (key : String) (value : Json) (pairs : List (String × Json))
    (m : Members) :
    insertAll ((key, value) :: pairs) m = insertAll pairs (m.insert key value) := rfl

theorem get?_insertAll_of_not_mem {pairs : List (String × Json)} {key : String}
    (hkey : key ∉ pairs.map (·.1)) (m : Members) : (insertAll pairs m).get? key = m.get? key := by
  induction pairs generalizing m with
  | nil => rfl
  | cons pair pairs ih =>
    obtain ⟨k, v⟩ := pair
    rw [List.map_cons, List.mem_cons, not_or] at hkey
    rw [insertAll_cons, ih hkey.2, get?_insert, if_neg (Ne.symm hkey.1)]

theorem get?_insertAll_of_mem {pairs : List (String × Json)} (hkeys : (pairs.map (·.1)).Nodup)
    {key : String} {value : Json} (hpair : (key, value) ∈ pairs) (m : Members) :
    (insertAll pairs m).get? key = some value := by
  induction pairs generalizing m with
  | nil => cases hpair
  | cons pair pairs ih =>
    obtain ⟨k, v⟩ := pair
    rw [List.map_cons, List.nodup_cons] at hkeys
    rw [insertAll_cons]
    rcases List.mem_cons.1 hpair with heq | hmem
    · obtain ⟨rfl, rfl⟩ := Prod.mk.inj heq
      rw [get?_insertAll_of_not_mem hkeys.1, get?_insert, if_pos rfl]
    · exact ih hkeys.2 hmem _

theorem insertAll_insert {pairs : List (String × Json)} {key : String}
    (hkey : key ∉ pairs.map (·.1)) (value : Json) (m : Members) :
    insertAll pairs (m.insert key value) = (insertAll pairs m).insert key value := by
  induction pairs generalizing m with
  | nil => rfl
  | cons pair pairs ih =>
    obtain ⟨k, v⟩ := pair
    rw [List.map_cons, List.mem_cons, not_or] at hkey
    rw [insertAll_cons, insertAll_cons, insert_comm (Ne.symm hkey.1), ih hkey.2]

/-- Of values put under the same keys twice, the later ones are left. -/
theorem insertAll_insertAll {earlier later : List (String × Json)}
    (hsame : earlier.map (·.1) = later.map (·.1)) (hkeys : (later.map (·.1)).Nodup)
    (m : Members) : insertAll later (insertAll earlier m) = insertAll later m := by
  induction later generalizing earlier m with
  | nil =>
    obtain rfl : earlier = [] := List.map_eq_nil_iff.1 hsame
    rfl
  | cons pair later ih =>
    obtain ⟨key, value⟩ := pair
    cases earlier with
    | nil => cases hsame
    | cons old earlier =>
      obtain ⟨k, v⟩ := old
      simp only [List.map_cons, List.cons.injEq] at hsame
      obtain ⟨rfl, hsame⟩ := hsame
      rw [List.map_cons, List.nodup_cons] at hkeys
      have hold : k ∉ earlier.map (·.1) := hsame ▸ hkeys.1
      rw [insertAll_cons, insertAll_cons, insertAll_cons, insertAll_insert hold v, insert_insert,
        ← insertAll_insert hold value, ih hsame hkeys.2]

end SpamVerdict.Json.Members
