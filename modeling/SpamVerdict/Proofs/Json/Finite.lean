import SpamVerdict.Json.Reading
import SpamVerdict.Proofs.Decimal.Nearest
set_option autoImplicit false

/-!
# Numbers that are read are finite (SPEC_FULL §6)

A literal stands for a finite number or for none (`isFinite_of_number?`), and every number in a
value that is read is that of a literal, however deep it stands (`isFinite_of_parse?`).

So a score that a peer gives as a number (SPEC_FULL §6) can be compared with any other.
-/

namespace SpamVerdict.Json

open Decimal (AtLeastTwo)

/-! ## Literals -/

theorem isNaN_powerOfTen (n : Nat) : (powerOfTen n).isNaN = false :=
  Decimal.isNaN_nearestDecimal false 1 n

theorem atLeastTwo_powerOfTen {n : Nat} (hn : 0 < n) : AtLeastTwo (powerOfTen n) :=
  Decimal.atLeastTwo_tenTo hn

theorem isFinite_scaleDown {x : Float} (hx : x.isFinite = true) (fuel : Nat) (e : Int) :
    (scaleDown x fuel e).1.isFinite = true := by
  induction fuel generalizing x e with
  | zero => exact hx
  | succ fuel ih =>
    unfold scaleDown
    split
    · exact hx
    · exact ih (Decimal.isFinite_div hx (atLeastTwo_powerOfTen (by decide))) _

theorem scaleDown_neg {e : Int} (he : e < 0) (x : Float) (fuel : Nat) :
    (scaleDown x fuel e).2 < 0 := by
  induction fuel generalizing x e with
  | zero => exact he
  | succ fuel ih =>
    unfold scaleDown
    split
    · exact he
    · next hstop =>
      simp only [Bool.or_eq_true, decide_eq_true_eq, not_or] at hstop
      exact ih (by omega) _

theorem isFinite_of_ofParts? {negative : Bool} {significand : Nat} {exponent : Int} {n : Number}
    (hn : Number.ofParts? negative significand exponent = some n) : n.toFloat.isFinite = true := by
  have hstart := Decimal.isFinite_toFloat (UInt64.ofNat significand)
  have hsigned {x : Float} (hx : x.isFinite = true) :
      (Number.float (if negative then -x else x)).toFloat.isFinite = true := by
    cases negative
    · exact hx
    · exact Decimal.isFinite_neg hx
  unfold Number.ofParts? at hn
  dsimp only at hn
  split at hn
  · cases hn
    exact hsigned hstart
  · next h0 =>
    split at hn
    · cases hn
    · split at hn
      · split at hn
        · cases hn
        · next hinf =>
          cases hn
          exact hsigned (Decimal.isFinite_mul hstart (Bool.eq_false_iff.2 h0)
            (isNaN_powerOfTen _) (Bool.eq_false_iff.2 hinf))
      · next hneg =>
        have hscaled := isFinite_scaleDown hstart 3 exponent
        have hleft := scaleDown_neg (Int.not_le.1 hneg) (UInt64.ofNat significand).toFloat 3
        cases hn
        refine hsigned ?_
        split
        · exact hscaled
        · exact Decimal.isFinite_div hscaled (atLeastTwo_powerOfTen (by omega))

theorem accumulate_lt {significand : Nat} (hlt : significand < wordBound) (cs : List Char) :
    (accumulate significand cs).1 < wordBound := by
  induction cs generalizing significand with
  | nil => exact hlt
  | cons c cs ih =>
    unfold accumulate
    dsimp only
    split
    · next hnext => exact ih hnext
    · exact hlt

theorem isFinite_int {n : Int} (hn : n.natAbs < wordBound) :
    (Number.int n).toFloat.isFinite = true :=
  Decimal.isFinite_ofInt hn

theorem isFinite_of_number? {l : Literal} {n : Number} (hn : l.number? = some n) :
    n.toFloat.isFinite = true := by
  have hlt := accumulate_lt (by decide : 0 < wordBound) l.whole
  unfold Literal.number? at hn
  dsimp only at hn
  split at hn
  · split at hn
    · exact isFinite_of_ofParts? hn
    · split at hn
      · cases hn
        exact isFinite_int (by rwa [Int.natAbs_natCast])
      · split at hn
        · cases hn
          exact isFinite_int (by rwa [Int.natAbs_neg, Int.natAbs_natCast])
        · cases hn
          exact Decimal.isFinite_neg (Decimal.isFinite_toFloat _)
  · exact isFinite_of_ofParts? hn

/-! ## Values -/

/-- A number stands somewhere in a value. -/
inductive Holds (n : Number) : Json → Prop where
  | number : Holds n (.number n)
  | item {items : List Json} {v : Json} (hmem : v ∈ items) (hv : Holds n v) :
      Holds n (.array items)
  | member {members : Members} {key : String} {v : Json} (hmem : (key, v) ∈ members)
      (hv : Holds n v) : Holds n (.object members)

/-- A number stands somewhere in a tree. -/
inductive Tree.Holds (n : Number) : Tree → Prop where
  | number : Holds n (.number (some n))
  | item {items : List Tree} {closed : Bool} {t : Tree} (hmem : t ∈ items) (ht : Holds n t) :
      Holds n (.array items closed)
  | member {members : List (Option String × Tree)} {closed : Bool} {key : Option String}
      {t : Tree} (hmem : (key, t) ∈ members) (ht : Holds n t) : Holds n (.object members closed)

section Members

variable {key : String} {v : Json} {m : Members}

theorem Members.mem_of_get? (hget : m.get? key = some v) : (key, v) ∈ m := by
  induction m with
  | nil => cases hget
  | cons p rest ih =>
    obtain ⟨k, w⟩ := p
    rw [Members.get?] at hget
    split at hget
    · next hk =>
      cases hget
      exact hk ▸ List.mem_cons_self
    · exact List.mem_cons_of_mem _ (ih hget)

theorem Members.mem_insert {p : String × Json} (hp : p ∈ m.insert key v) :
    p = (key, v) ∨ p ∈ m := by
  induction m with
  | nil => exact .inl (List.mem_singleton.1 hp)
  | cons q rest ih =>
    obtain ⟨k, w⟩ := q
    rw [Members.insert] at hp
    split at hp
    · obtain rfl | hp := List.mem_cons.1 hp
      · exact .inl rfl
      · exact .inr (List.mem_cons_of_mem _ hp)
    · split at hp
      · exact List.mem_cons.1 hp
      · obtain rfl | hp := List.mem_cons.1 hp
        · exact .inr List.mem_cons_self
        · exact (ih hp).imp_right (List.mem_cons_of_mem _)

theorem Members.mem_ofList {pairs : List (String × Json)} {p : String × Json}
    (hp : p ∈ Members.ofList pairs) : p ∈ pairs := by
  have hfold (pairs : List (String × Json)) (m : Members)
      (hp : p ∈ pairs.foldl (fun m p => m.insert p.1 p.2) m) : p ∈ m ∨ p ∈ pairs := by
    induction pairs generalizing m with
    | nil => exact .inl hp
    | cons q pairs ih =>
      obtain hp | hp := ih _ hp
      · obtain rfl | hp := Members.mem_insert hp
        · exact .inr List.mem_cons_self
        · exact .inl hp
      · exact .inr (List.mem_cons_of_mem _ hp)
  exact (hfold pairs [] hp).resolve_left List.not_mem_nil

end Members

/-- Every number in a value is finite. -/
def IsFinite (v : Json) : Prop := ∀ n, v.Holds n → n.toFloat.isFinite = true

/-- A value stands somewhere in another one, or is all of it. -/
inductive Within (w : Json) : Json → Prop where
  | whole : Within w w
  | item {items : List Json} {v : Json} (hmem : v ∈ items) (hw : Within w v) :
      Within w (.array items)
  | member {members : Members} {key : String} {v : Json} (hmem : (key, v) ∈ members)
      (hw : Within w v) : Within w (.object members)

theorem Within.holds {v w : Json} (hw : w.Within v) {n : Number} (hn : w.Holds n) : v.Holds n := by
  induction hw with
  | whole => exact hn
  | item hmem _ ih => exact .item hmem ih
  | member hmem _ ih => exact .member hmem ih

theorem within_of_get? {v w : Json} {key : String} (hw : v.get? key = some w) : w.Within v := by
  cases v with
  | object members => exact .member (Members.mem_of_get? hw) .whole
  | _ => cases hw

theorem IsFinite.of_within {v w : Json} (hv : v.IsFinite) (hw : w.Within v) : w.IsFinite := by
  intro n hn
  exact hv n (hw.holds hn)

theorem IsFinite.get? {v w : Json} (hv : v.IsFinite) {key : String} (hw : v.get? key = some w) :
    w.IsFinite :=
  hv.of_within (within_of_get? hw)

section Values

variable {n : Number}

theorem exists_of_itemValues? {depth : Nat} {ts : List Tree} {vs : List Json} {v : Json}
    (hvs : itemValues? depth ts = some vs) (hv : v ∈ vs) : ∃ t ∈ ts, t.value? depth = some v := by
  induction ts generalizing vs with
  | nil =>
    cases hvs
    cases hv
  | cons t ts ih =>
    simp only [itemValues?, Option.bind_eq_bind, Option.bind_eq_some_iff, Option.pure_def,
      Option.some.injEq] at hvs
    obtain ⟨w, hw, ws, hws, rfl⟩ := hvs
    obtain rfl | hv := List.mem_cons.1 hv
    · exact ⟨t, List.mem_cons_self, hw⟩
    · obtain ⟨t', ht', hvalue⟩ := ih hws hv
      exact ⟨t', List.mem_cons_of_mem _ ht', hvalue⟩

theorem exists_of_memberValues? {depth : Nat} {ts : List (Option String × Tree)} {vs : Members}
    {key : String} {v : Json} (hvs : memberValues? depth ts = some vs) (hv : (key, v) ∈ vs) :
    ∃ t, (some key, t) ∈ ts ∧ t.value? depth = some v := by
  induction ts generalizing vs with
  | nil =>
    cases hvs
    cases hv
  | cons t ts ih =>
    obtain ⟨k, t⟩ := t
    simp only [memberValues?, Option.bind_eq_bind, Option.bind_eq_some_iff, Option.pure_def,
      Option.some.injEq] at hvs
    obtain ⟨k', rfl, w, hw, ws, hws, rfl⟩ := hvs
    obtain hv | hv := List.mem_cons.1 hv
    · cases hv
      exact ⟨t, List.mem_cons_self, hw⟩
    · obtain ⟨t', ht', hvalue⟩ := ih hws hv
      exact ⟨t', List.mem_cons_of_mem _ ht', hvalue⟩

theorem Tree.value?_array {depth : Nat} {ts : List Tree} {closed : Bool} {v : Json}
    (ht : (Tree.array ts closed).value? depth = some v) :
    ∃ below < depth, ∃ items, itemValues? below ts = some items ∧ v = .array items := by
  cases depth with
  | zero => cases ht
  | succ below =>
    rw [Tree.value?, Option.ite_none_right_eq_some, Option.map_eq_some_iff] at ht
    obtain ⟨-, items, hitems, rfl⟩ := ht
    exact ⟨below, below.lt_succ_self, items, hitems, rfl⟩

theorem Tree.value?_object {depth : Nat} {ts : List (Option String × Tree)} {closed : Bool}
    {v : Json} (ht : (Tree.object ts closed).value? depth = some v) :
    ∃ below < depth, ∃ pairs,
      memberValues? below ts = some pairs ∧ v = .object (Members.ofList pairs) := by
  cases depth with
  | zero => cases ht
  | succ below =>
    rw [Tree.value?, Option.ite_none_right_eq_some, Option.map_eq_some_iff] at ht
    obtain ⟨-, pairs, hpairs, rfl⟩ := ht
    exact ⟨below, below.lt_succ_self, pairs, hpairs, rfl⟩

/-- The numbers of a value are those of the tree it is read from. -/
theorem Tree.holds_of_value? {v : Json} (hn : v.Holds n) {depth : Nat} {t : Tree}
    (ht : t.value? depth = some v) : t.Holds n := by
  match t with
  | .broken => cases ht
  | .null => cases ht; cases hn
  | .bool b => cases ht; cases hn
  | .number x =>
    obtain ⟨y, rfl, rfl⟩ := Option.map_eq_some_iff.1 ht
    cases hn
    exact .number
  | .string x =>
    obtain ⟨y, rfl, rfl⟩ := Option.map_eq_some_iff.1 ht
    cases hn
  | .array ts closed =>
    obtain ⟨below, hbelow, items, hitems, rfl⟩ := Tree.value?_array ht
    cases hn with
    | item hmem hv =>
      obtain ⟨t, hmem', ht'⟩ := exists_of_itemValues? hitems hmem
      exact .item hmem' (holds_of_value? hv ht')
  | .object ts closed =>
    obtain ⟨below, hbelow, pairs, hpairs, rfl⟩ := Tree.value?_object ht
    cases hn with
    | member hmem hv =>
      obtain ⟨t, hmem', ht'⟩ := exists_of_memberValues? hpairs (Members.mem_ofList hmem)
      exact .member hmem' (holds_of_value? hv ht')
termination_by depth

end Values

/-! ## Reading -/

/-- Every number in a tree is that of a literal. -/
def Tree.IsLiteral (t : Tree) : Prop :=
  ∀ n, t.Holds n → ∃ l : Literal, l.number? = some n

namespace Tree.IsLiteral

theorem broken : IsLiteral .broken := nofun

theorem null : IsLiteral .null := nofun

theorem bool (b : Bool) : IsLiteral (.bool b) := nofun

theorem string (s : Option String) : IsLiteral (.string s) := nofun

theorem number (l : Literal) : IsLiteral (.number l.number?) := by
  intro n hn
  generalize hl : l.number? = found at hn
  cases hn
  exact ⟨l, hl⟩

theorem array {items : List Tree} (hitems : ∀ t ∈ items, IsLiteral t) (closed : Bool) :
    IsLiteral (.array items closed) := by
  intro n hn
  cases hn with
  | item hmem ht => exact hitems _ hmem n ht

theorem object {members : List (Option String × Tree)} (hmembers : ∀ p ∈ members, IsLiteral p.2)
    (closed : Bool) : IsLiteral (.object members closed) := by
  intro n hn
  cases hn with
  | member hmem ht => exact hmembers _ hmem n ht

end Tree.IsLiteral

section Reading

variable {units : Units} {fuel : Nat}

theorem isLiteral_readWord {word : List Char} {t : Tree} (ht : t.IsLiteral) (cs : List Char) :
    (readWord word t cs).1.IsLiteral := by
  unfold readWord
  split
  · exact ht
  · exact .broken

theorem isLiteral_readTree_step (hitems : ∀ cs, ∀ t ∈ (readItems units fuel cs).1, t.IsLiteral)
    (hmembers : ∀ cs, ∀ p ∈ (readMembers units fuel cs).1, p.2.IsLiteral) (cs : List Char) :
    (readTree units (fuel + 1) cs).1.IsLiteral := by
  rw [readTree]
  split
  · exact .broken
  · split
    · split
      · exact .object (List.forall_mem_nil _) _
      · exact .object (hmembers _) _
    · split
      · split
        · exact .array (List.forall_mem_nil _) _
        · exact .array (hitems _) _
      · split
        · split
          · exact .string _
          · exact .broken
        · split
          · exact isLiteral_readWord .null _
          · split
            · exact isLiteral_readWord (.bool true) _
            · split
              · exact isLiteral_readWord (.bool false) _
              · split
                · exact .number _
                · exact .broken

theorem isLiteral_readItems_step (htree : ∀ cs, (readTree units fuel cs).1.IsLiteral)
    (hitems : ∀ cs, ∀ t ∈ (readItems units fuel cs).1, t.IsLiteral) (cs : List Char) :
    ∀ t ∈ (readItems units (fuel + 1) cs).1, t.IsLiteral := by
  have hfirst := htree cs
  rw [readItems]
  split
  · next item hread =>
    rw [hread] at hfirst
    exact List.forall_mem_singleton.2 hfirst
  · next item rest hread =>
    rw [hread] at hfirst
    split
    · exact List.forall_mem_singleton.2 hfirst
    · split
      · exact List.forall_mem_singleton.2 hfirst
      · exact List.forall_mem_cons.2 ⟨hfirst, hitems _⟩
    · exact List.forall_mem_singleton.2 hfirst

theorem isLiteral_readMembers_step (htree : ∀ cs, (readTree units fuel cs).1.IsLiteral)
    (hmembers : ∀ cs, ∀ p ∈ (readMembers units fuel cs).1, p.2.IsLiteral) (cs : List Char) :
    ∀ p ∈ (readMembers units (fuel + 1) cs).1, p.2.IsLiteral := by
  rw [readMembers]
  split
  · split
    · exact List.forall_mem_nil _
    · split
      · next key _ _ cs _ =>
        have hfirst := htree cs
        split
        · next value hread =>
          rw [hread] at hfirst
          exact List.forall_mem_singleton.2 hfirst
        · next value rest hread =>
          rw [hread] at hfirst
          split
          · exact List.forall_mem_singleton.2 hfirst
          · exact List.forall_mem_cons.2 ⟨hfirst, hmembers _⟩
          · exact List.forall_mem_singleton.2 hfirst
      · exact List.forall_mem_singleton.2 .broken
  · exact List.forall_mem_nil _

/-- Every number in a tree that is read is that of a literal. -/
theorem isLiteral_read (units : Units) (fuel : Nat) :
    (∀ cs, (readTree units fuel cs).1.IsLiteral) ∧
      (∀ cs, ∀ t ∈ (readItems units fuel cs).1, t.IsLiteral) ∧
      ∀ cs, ∀ p ∈ (readMembers units fuel cs).1, p.2.IsLiteral := by
  induction fuel with
  | zero =>
    refine ⟨fun cs => ?_, fun cs => ?_, fun cs => ?_⟩
    · rw [readTree]
      exact .broken
    · rw [readItems]
      exact List.forall_mem_nil _
    · rw [readMembers]
      exact List.forall_mem_nil _
  | succ fuel ih =>
    obtain ⟨htree, hitems, hmembers⟩ := ih
    exact ⟨isLiteral_readTree_step hitems hmembers, isLiteral_readItems_step htree hitems,
      isLiteral_readMembers_step htree hmembers⟩

theorem isLiteral_readUnits (units : Units) (cs : List Char) :
    (Tree.readUnits units cs).1.IsLiteral :=
  (isLiteral_read units _).1 cs

/-- Every number in a value that is read from a text is finite. -/
theorem isFinite_of_parse? {s : String} {v : Json} (hv : parse? s = some v) : v.IsFinite := by
  intro n hn
  unfold parse? at hv
  split at hv
  · next t rest hread =>
    rw [Option.ite_none_right_eq_some] at hv
    have hliteral : t.IsLiteral := by
      have htree := isLiteral_readUnits .characters s.toList
      rwa [show Tree.readUnits .characters s.toList = Tree.read s from rfl, hread] at htree
    obtain ⟨l, hl⟩ := hliteral n (Tree.holds_of_value? hn hv.2)
    exact isFinite_of_number? hl
  · cases hv

end Reading

end SpamVerdict.Json
