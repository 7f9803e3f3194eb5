import SpamVerdict.Decimal.Binary
set_option autoImplicit false

/-!
# JSON values (SPEC_FULL §14.1, §15)

A number is an integer that 64 bits hold, with or without a sign, or else a `Float`.  The members
of an object are a list in the order of their keys without repetitions; `Members.insert` keeps it
so, and `Members.get?_insert` and `Members.insert_insert` are the laws of the dictionary that it
implements.

The variables of a ticket (SPEC_FULL §14.1), the details of a report (§3) and the bodies of requests
and answers (§15) are such values.
-/

namespace SpamVerdict

/-- A number as data holds it. -/
inductive Json.Number where
  | int (n : Int)
  | float (x : Float)
  deriving DecidableEq

/-- A JSON value. -/
inductive Json where
  | null
  | bool (b : Bool)
  | number (n : Json.Number)
  | string (s : String)
  | array (items : List Json)
  | object (members : List (String × Json))
  deriving Inhabited

namespace Json

/-- The members of an object, in the order of their keys. -/
abbrev Members := List (String × Json)

/-- The value of a number as a `Float`. -/
def Number.toFloat : Number → Float
  | int n => Decimal.ofInt n
  | float x => x

/-- The number that a `Float` is written as; a value that is not finite has none. -/
def ofFloat (x : Float) : Json :=
  if x.isFinite then number (.float x) else null

/-- An integer value. -/
def ofInt (n : Int) : Json := number (.int n)

/-- A value that may be absent. -/
def ofOption {α : Type} (f : α → Json) : Option α → Json
  | none => null
  | some x => f x

/-- A list of texts. -/
def ofStrings (xs : List String) : Json := array (xs.map string)

/-- The text, if the value is one. -/
def string? : Json → Option String
  | string s => some s
  | _ => none

/-! ## Members -/

namespace Members

/-- The value under a key. -/
def get? (key : String) : Members → Option Json
  | [] => none
  | (k, v) :: rest => if k = key then some v else get? key rest

/-- The members with a value put under a key. -/
def insert (key : String) (value : Json) : Members → Members
  | [] => [(key, value)]
  | (k, v) :: rest =>
    if k = key then (key, value) :: rest
    else if key < k then (key, value) :: (k, v) :: rest
    else (k, v) :: insert key value rest

/-- The members of a list of pairs; of a repeated key the last value counts. -/
def ofList (pairs : List (String × Json)) : Members :=
  pairs.foldl (fun m p => m.insert p.1 p.2) []

@[simp] theorem get?_nil (key : String) : get? key [] = none := rfl

theorem get?_insert (key j : String) (value : Json) (m : Members) :
    get? j (insert key value m) = if key = j then some value else get? j m := by
  induction m with
  | nil => simp [insert, get?]
  | cons p rest ih =>
    obtain ⟨k, v⟩ := p
    unfold insert
    split
    · next hk => subst hk; by_cases h : k = j <;> simp [get?, h]
    · next hk =>
      split
      · by_cases h : key = j <;> simp [get?, h]
      · by_cases h : k = j
        · have : ¬ key = j := fun e => hk (h.trans e.symm)
          simp [get?, h, this]
        · simp [get?, h, ih]

/-- Of two values put under one key the later one stays. -/
theorem insert_insert (key : String) (value earlier : Json) (m : Members) :
    insert key value (insert key earlier m) = insert key value m := by
  induction m with
  | nil => simp [insert]
  | cons p rest ih =>
    obtain ⟨k, v⟩ := p
    by_cases hk : k = key
    · simp [insert, hk]
    · by_cases hlt : key < k
      · simp [insert, hk, hlt]
      · simp [insert, hk, hlt, ih]

end Members

/-- The object with the given members. -/
def ofPairs (pairs : List (String × Json)) : Json := object (Members.ofList pairs)

/-- The member of an object under a key. -/
def get? (key : String) : Json → Option Json
  | object members => Members.get? key members
  | _ => none

end Json

end SpamVerdict
