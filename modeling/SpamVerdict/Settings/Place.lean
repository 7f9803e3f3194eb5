import SpamVerdict.Decimal.Numeral
import SpamVerdict.Settings.Value
import SpamVerdict.Text.Case
set_option autoImplicit false

/-!
# Places of settings (SPEC_FULL §13)

The key of a setting may lead through tables and lists, as in `policy.test_mode` or `names[0]`.
A value is put at its place by making what is missing on the way; a table is merged into the table
that is already there, and anything else replaces what is there.  Keys are compared in lower case.

This is how the layers of SPEC_FULL §13, a file and the environment, are put on top of each other.
-/

namespace SpamVerdict.Settings

/-- One step on the way to a place. -/
inductive Step where
  | key (k : String)
  /-- A position in a list; one below nought counts from the end. -/
  | index (i : Int)
  deriving DecidableEq, Repr

/-! ## Reading -/

/-- A character of a key within a place. -/
def isKeyChar (c : Char) : Bool := c.isAlphanum || c = ' ' || c = '_' || c = '-'

/-- A key within a place: one or more characters up to a dot, a bracket or the end. -/
def key? (cs : List Char) : Option Step :=
  if !cs.isEmpty && cs.all isKeyChar then some (.key (String.ofList cs)) else none

/-- A position: an integer of 64 bits with blanks around it. -/
def index? (cs : List Char) : Option Step :=
  let within (n : Int) : Option Step := if Decimal.fitsInt64 n then some (.index n) else none
  match Text.trimOf (fun c => c = ' ' || c = '\t') cs with
  | '-' :: ds => (Decimal.digits? ds).bind fun n => within (-(n : Int))
  | ds => (Decimal.digits? ds).bind fun n => within n

/-- The positions behind a key: each stands in brackets. -/
def indices? : List (List Char) → Option (List Step)
  | [] => some []
  | piece :: pieces =>
    match piece.getLast? with
    | some ']' => do
      let i ← index? piece.dropLast
      let is ← indices? pieces
      return i :: is
    | _ => none

/-- The steps between two dots: a key and the positions behind it. -/
def stepsOfPart? (cs : List Char) : Option (List Step) :=
  match Text.split (· == '[') cs with
  | [] => none
  | front :: pieces => do
    let k ← key? front
    let is ← indices? pieces
    return k :: is

/-- The steps that a key spells; one that spells none is a single step. -/
def stepsOf (key : String) : List Step :=
  match (Text.split (· == '.') key.toList).mapM stepsOfPart? with
  | some parts => parts.flatten
  | none => [.key key]

/-! ## Entries -/

/-- The entries of a table; those of anything else are none. -/
def Value.entries : Value → List (String × Value)
  | .table es => es
  | _ => []

/-- The items of a list; those of anything else are none. -/
def Value.items : Value → List Value
  | .list xs => xs
  | _ => []

/-- Changes the value under a key, which is `missing` if there is none. -/
def update (k : String) (missing : Value) (f : Value → Value) :
    List (String × Value) → List (String × Value)
  | [] => [(k, f missing)]
  | (j, v) :: es => if j = k then (j, f v) :: es else (j, v) :: update k missing f es

/-- The position in a list that an index means. -/
def position (i : Int) (length : Nat) : Nat :=
  if 0 ≤ i then i.toNat else length - i.natAbs

/-- Changes the item at a position; a shorter list is filled up. -/
def updateItem (i : Nat) (f : Value → Value) : List Value → List Value
  | [] => List.replicate i .null ++ [f .null]
  | x :: xs =>
    match i with
    | 0 => f x :: xs
    | i + 1 => x :: updateItem i f xs

/-! ## Putting -/

mutual

/-- Puts a value under a key of what is made a table. -/
def putKey (k : String) (v : Value) (target : Value) : Value :=
  match v with
  | .table es => .table (update (Text.lower k) (.table []) (mergeEntries es) target.entries)
  | .null => .table (update (Text.lower k) .null (fun _ => .null) target.entries)
  | .bool b => .table (update (Text.lower k) .null (fun _ => .bool b) target.entries)
  | .int n => .table (update (Text.lower k) .null (fun _ => .int n) target.entries)
  | .float x => .table (update (Text.lower k) .null (fun _ => .float x) target.entries)
  | .text s => .table (update (Text.lower k) .null (fun _ => .text s) target.entries)
  | .list xs => .table (update (Text.lower k) .null (fun _ => .list xs) target.entries)

/-- Puts entries into what is made a table by the first of them. -/
def mergeEntries : List (String × Value) → Value → Value
  | [], target => target
  | (k, v) :: es, target => mergeEntries es (putKey k v target)

end

/-- Puts a value at the end of steps.  Nothing is made a table on the way, what is missing apart;
anything is made a list. -/
def put (v : Value) : List Step → Value → Value
  | [], target => target
  | [.key k], target => putKey k v target
  | .key k :: steps, target =>
    match target with
    | .table es => .table (update (Text.lower k) .null (put v steps) es)
    | .null => .table (update (Text.lower k) .null (put v steps) [])
    | other => other
  | .index i :: steps, target =>
    let items := target.items
    let f := match steps with
      | [] => fun _ => v
      | steps => put v steps
    .list (updateItem (position i items.length) f items)

/-- Puts the values of a source at the places that its keys spell. -/
def layer (source : List (String × Value)) (target : Value) : Value :=
  source.foldl (fun target (key, v) => put v (stepsOf key) target) target

end SpamVerdict.Settings
