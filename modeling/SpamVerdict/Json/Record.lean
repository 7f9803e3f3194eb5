import SpamVerdict.Json.Reading
set_option autoImplicit false

/-!
# Reading JSON as data of a known shape (SPEC_FULL §13, §15)

A `Reader` turns a tree into data or reports the first fault in the order of the text: the text
stops being JSON (`malformed`), or it is JSON of another shape (`mismatch`).  `Record` describes
data with named fields: they may come by name in any order, each at most once and beside unknown
names, or as a list in the order of the description, of which some may be left out at the end.

The policy (SPEC_FULL §13), rows (§6) and the bodies of requests (§15) are records.  The two kinds
of faults are told apart because they are answered with different statuses.
-/

namespace SpamVerdict.Json

/-- Why text is not data of the expected shape. -/
inductive Fault where
  /-- The text is not JSON where it was read. -/
  | malformed
  /-- The text is JSON of another shape. -/
  | mismatch
  deriving DecidableEq, Repr

/-- Reads data from a tree. -/
abbrev Reader (α : Type) := Tree → Except Fault α

/-- The fault of a tree of another kind than the one expected. -/
def Tree.unexpected : Tree → Fault
  | .broken => .malformed
  | .number none => .malformed
  | .string none => .malformed
  | _ => .mismatch

mutual

/-- A tree whose content is of no interest: only a break in it is a fault. -/
def Tree.skip : Reader Unit
  | .broken => .error .malformed
  | .array items closed => do
    skipItems items
    if closed then .ok () else .error .malformed
  | .object members closed => do
    skipMembers members
    if closed then .ok () else .error .malformed
  | _ => .ok ()

/-- Trees of no interest. -/
def skipItems : List Tree → Except Fault Unit
  | [] => .ok ()
  | t :: ts => do
    Tree.skip t
    skipItems ts

/-- Members of no interest. -/
def skipMembers : List (Option String × Tree) → Except Fault Unit
  | [] => .ok ()
  | (_, t) :: ts => do
    Tree.skip t
    skipMembers ts

end

namespace Reader

/-- Any value, with `depth` levels of brackets left. -/
def value (depth : Nat) : Reader Json := fun t =>
  match t.value? depth with
  | some v => .ok v
  | none => .error .malformed

/-- A text. -/
def text : Reader String
  | .string (some s) => .ok s
  | t => .error t.unexpected

/-- A truth value. -/
def bool : Reader Bool
  | .bool b => .ok b
  | t => .error t.unexpected

/-- A number, integers included. -/
def float : Reader Float
  | .number (some n) => .ok n.toFloat
  | t => .error t.unexpected

/-- An integer within bounds. -/
def int (low high : Int) : Reader Int
  | .number (some (.int n)) => if low ≤ n && n ≤ high then .ok n else .error .mismatch
  | t => .error t.unexpected

/-- Data or `null`. -/
def optional {α : Type} (read : Reader α) : Reader (Option α)
  | .null => .ok none
  | t => (read t).map some

/-- The members of an object, each with any value; `depth` counts the object itself. -/
def members (depth : Nat) : Reader Members
  | .object ms closed =>
    match (Tree.object ms closed).value? depth with
    | some (.object members) => .ok members
    | _ => .error .malformed
  | t => .error t.unexpected

/-- The items of an array. -/
def list {α : Type} (read : Reader α) : Reader (List α)
  | .array items closed => do
    let xs ← items.mapM read
    if closed then .ok xs else .error .malformed
  | t => .error t.unexpected

/-- One of the listed words, as a text or as the only key of an object with the value `null`. -/
def choice {α : Type} (words : List (String × α)) : Reader α
  | .string (some s) =>
    match words.lookup s with
    | some x => .ok x
    | none => .error .mismatch
  | .object ((some s, value) :: rest) closed =>
    match words.lookup s, value with
    | some x, .null => if rest.isEmpty && closed then .ok x else .error .malformed
    | none, _ => .error .mismatch
    | some _, t => .error t.unexpected
  | _ => .error .malformed

end Reader

/-! ## Records -/

/-- Where a field must be given. -/
inductive Presence where
  /-- Everywhere. -/
  | always
  /-- In a list; an object may leave it out. -/
  | inList
  /-- Nowhere. -/
  | never
  deriving DecidableEq, Repr

/-- A field of a record under construction: its name, where it must be given, and how its tree
changes the record. -/
structure Field (σ : Type) where
  name : String
  presence : Presence
  read : Tree → σ → Except Fault σ

/-- A field that is read and then put into the record. -/
def Field.of {σ α : Type} (presence : Presence) (name : String) (read : Reader α)
    (put : α → σ → σ) : Field σ :=
  ⟨name, presence, fun t s => (read t).map fun x => put x s⟩

/-- The shape of a record: its fields in order, and the record in which every field has its
default. -/
structure Record (σ : Type) where
  default : σ
  fields : List (Field σ)

namespace Record

variable {σ : Type}

/-- Reads members one after the other; `seen` holds the names of the fields already given. -/
def readMembers (r : Record σ) (seen : List String) (s : σ) :
    List (Option String × Tree) → Except Fault (σ × List String)
  | [] => .ok (s, seen)
  | (none, _) :: _ => .error .malformed
  | (some key, t) :: rest =>
    match r.fields.find? (·.name == key) with
    | none => do
      t.skip
      readMembers r seen s rest
    | some f =>
      if seen.contains key then .error .mismatch
      else do
        let s ← f.read t s
        readMembers r (key :: seen) s rest

/-- Reads items as the fields in their order. -/
def readItems (s : σ) : List (Field σ) → List Tree → Bool → Except Fault σ
  | fields, [], closed =>
    if !closed then .error .malformed
    else if fields.any (·.presence ≠ .never) then .error .mismatch
    else .ok s
  | [], _ :: _, _ => .error .malformed
  | f :: fields, t :: ts, closed => do
    let s ← f.read t s
    readItems s fields ts closed

/-- Reads a record by name or by position. -/
def read (r : Record σ) : Reader σ
  | .object ms closed => do
    let (s, seen) ← r.readMembers [] r.default ms
    if !closed then .error .malformed
    else if r.fields.any (fun f => f.presence = .always && !seen.contains f.name) then
      .error .mismatch
    else .ok s
  | .array items closed => readItems r.default r.fields items closed
  | t => .error t.unexpected

end Record

/-- Reads the whole of a text as data. -/
def readWhole? {α : Type} (read : Reader α) (s : String) : Option α :=
  match Tree.read s with
  | (tree, rest) =>
    match read tree, rest with
    | .ok x, some rest => if (skipGap rest).isEmpty then some x else none
    | _, _ => none

/-- Reads the start of a text of bytes as data; what follows it does not matter. -/
def readFront {α : Type} (read : Reader α) (bs : List UInt8) : Except Fault α :=
  read (Tree.readBytes bs).1

end SpamVerdict.Json
