import SpamVerdict.Decimal.Layout
import SpamVerdict.Decimal.Reading
import SpamVerdict.Settings.Value
import SpamVerdict.Text.Case
set_option autoImplicit false

/-!
# Reading values as settings (SPEC_FULL §13)

Truth values, numbers and texts are read from each other as far as that makes sense: a number is
true unless it is nought, the words for truth are numbers too, a decimal is rounded to an integer,
and everything but tables and lists has a text.

SPEC_FULL §13 lets the environment override any entry of the file.  A variable only holds a text,
which is why the kinds of values have to be converted into each other.
-/

namespace SpamVerdict.Settings

/-- Reads a setting from a value. -/
abbrev Conversion (α : Type) := Value → Option α

/-- The truth value that a word means. -/
def wordBool? (word : String) : Option Bool :=
  if ["true", "on", "yes"].contains word then some true
  else if ["false", "off", "no"].contains word then some false
  else none

namespace Conversion

/-- A truth value. -/
def bool : Conversion Bool
  | .bool b => some b
  | .int n => some (n ≠ 0)
  | .float x => some (!(x == Decimal.ofInt 0))
  | .text s =>
    match Text.lower s with
    | "1" => some true
    | "0" => some false
    | word => wordBool? word
  | _ => none

/-- The nearest integer, halves going away from nought, of those below a bound. -/
def roundBelow (bound : Nat) (x : Float) : Nat :=
  match Decimal.roundToInt? x with
  | some n => min n.toNat (bound - 1)
  | none => if Decimal.ofInt 0 < x then bound - 1 else 0

/-- A number from nought up to a bound, which is at most `2 ^ 64`. -/
def natural (bound : Nat) : Conversion Nat := fun v =>
  let n := match v with
    | .bool b => some (if b then 1 else 0)
    | .int n => if 0 ≤ n then some n.toNat else none
    | .float x => some (roundBelow (Nat.pow 2 64) x)
    | .text s =>
      match wordBool? (Text.lower s) with
      | some b => some (if b then 1 else 0)
      | none => Decimal.below? (Nat.pow 2 64) s.toList
    | _ => none
  n.filter (· < bound)

/-- A decimal. -/
def float : Conversion Float
  | .bool b => some (Decimal.ofInt (if b then 1 else 0))
  | .int n => some (Decimal.ofInt n)
  | .float x => some x
  | .text s =>
    match wordBool? (Text.lower s) with
    | some b => some (Decimal.ofInt (if b then 1 else 0))
    | none => Decimal.float? s.toList
  | _ => none

/-- A text. -/
def text : Conversion String
  | .bool b => some (if b then "true" else "false")
  | .int n => some (toString n)
  | .float x => some (Decimal.Layout.plain.render x)
  | .text s => some s
  | _ => none

/-- A setting that may be absent. -/
def optional {α : Type} (read : Conversion α) : Conversion (Option α)
  | .null => some none
  | v => (read v).map some

/-- One of the listed words in any case, as a text or as the only key of a table. -/
def choice {α : Type} (words : List (String × α)) : Conversion α
  | .text s => words.lookup (Text.lower s)
  | .table [(key, _)] => words.lookup (Text.lower key)
  | _ => none

end Conversion

/-! ## Groups of settings -/

/-- A setting within a group under construction: its name, whether a list of settings must reach
to it, and how its value changes the group. -/
structure Setting (σ : Type) where
  name : String
  inList : Bool
  read : Value → σ → Option σ

/-- A setting that is read and then put into its group. -/
def Setting.of {σ α : Type} (name : String) (read : Conversion α) (put : α → σ → σ) : Setting σ :=
  ⟨name, false, fun v s => (read v).map fun x => put x s⟩

/-- A setting that a list must not leave out. -/
def Setting.inLists {σ : Type} (s : Setting σ) : Setting σ := { s with inList := true }

/-- The shape of a group: its settings in order, and the group in which each has its default. -/
structure Group (σ : Type) where
  default : σ
  settings : List (Setting σ)

namespace Group

variable {σ : Type}

/-- Reads settings by name; names that the group does not know say nothing. -/
def ofEntries (g : Group σ) (s : σ) (entries : List (String × Value)) : Option σ :=
  entries.foldlM (fun s (name, v) =>
    match g.settings.find? (·.name == name) with
    | some setting => setting.read v s
    | none => some s) s

/-- Reads settings in their order; what a list says beyond them says nothing. -/
def ofItems (s : σ) : List (Setting σ) → List Value → Option σ
  | [], _ => some s
  | settings, [] => if settings.any (·.inList) then none else some s
  | setting :: settings, v :: vs => do
    let s ← setting.read v s
    ofItems s settings vs

/-- Reads a group from a table or a list. -/
def read (g : Group σ) : Conversion σ
  | .table entries => g.ofEntries g.default entries
  | .list items => ofItems g.default g.settings items
  | _ => none

end Group

end SpamVerdict.Settings
