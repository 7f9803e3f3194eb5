import SpamVerdict.Settings.Value
set_option autoImplicit false

/-!
# Tables in the making (SPEC_FULL §13)

A document fills its tables piece by piece, and how a table came about decides what may be added
to it: one that a header opened is complete apart from tables inside it, one that only the path of
another header names may still be opened, and one made by a dotted key takes more dotted keys.
`insert?` and `openTable?` refuse everything else.

So every entry of SPEC_FULL §13 is set at most once in a file.
-/

namespace SpamVerdict.Toml

open SpamVerdict.Settings (Value)

/-- How a table came about. -/
inductive Origin where
  /-- By its own header. -/
  | header
  /-- By the path of another header. -/
  | path
  /-- By a dotted key. -/
  | dotted
  deriving DecidableEq, Repr

/-- An entry of a table in the making. -/
inductive Node where
  | value (v : Value)
  | table (origin : Origin) (entries : List (String × Node))
  /-- The tables that one header opened again and again. -/
  | tables (elements : List (List (String × Node)))

/-- The entries of a table in the making. -/
abbrev Nodes := List (String × Node)

namespace Nodes

/-- The entry under a key. -/
def get? (key : String) (ns : Nodes) : Option Node := ns.lookup key

/-- The entries with one under a key, in its old place or at the end. -/
def put (key : String) (n : Node) : Nodes → Nodes
  | [] => [(key, n)]
  | (k, m) :: rest => if k = key then (k, n) :: rest else (k, m) :: put key n rest

/-- Changes the table at the end of a path, of which `origin` is the start.  Missing tables on the
way come about as `fresh` says; of repeated tables the last is entered; a dotted key enters no
table that a header opened. -/
def modify? (fresh : Origin) (change : Origin → Nodes → Option Nodes) (origin : Origin)
    (ns : Nodes) : List String → Option Nodes
  | [] => change origin ns
  | key :: path =>
    match ns.get? key with
    | none => (modify? fresh change fresh [] path).map fun inner =>
        ns.put key (.table fresh inner)
    | some (.value _) => none
    | some (.tables elements) =>
      match elements.getLast? with
      | none => none
      | some last => (modify? fresh change .header last path).map fun inner =>
          ns.put key (.tables (elements.dropLast ++ [inner]))
    | some (.table o inner) =>
      if fresh = .dotted && o = .header then none
      else (modify? fresh change o inner path).map fun inner => ns.put key (.table o inner)

/-- Adds a value under a key that is not there yet. -/
def add? (key : String) (v : Value) (ns : Nodes) : Option Nodes :=
  match ns.get? key with
  | none => some (ns.put key (.value v))
  | some _ => none

/-- Adds a value under a dotted key: `path` leads to the table, which must have come about by
dotted keys if it is not the one at hand. -/
def insert? (ns : Nodes) (path : List String) (key : String) (v : Value) : Option Nodes :=
  match path with
  | [] => ns.add? key v
  | _ => modify? .dotted (fun origin inner =>
      if origin = .dotted then inner.add? key v else none) .header ns path

/-- Opens the table under the last key of a header, unless it was opened already or is something
else, and fills it. -/
def openTable? (ns : Nodes) (path : List String) (key : String)
    (fill : Nodes → Option Nodes) : Option Nodes :=
  modify? .path (fun _ outer =>
    match outer.get? key with
    | none => (fill []).map fun inner => outer.put key (.table .header inner)
    | some (.table .path inner) => (fill inner).map fun inner =>
        outer.put key (.table .header inner)
    | some _ => none) .header ns path

/-- Opens one more of the tables under the last key of a header, and fills it. -/
def openElement? (ns : Nodes) (path : List String) (key : String)
    (fill : Nodes → Option Nodes) : Option Nodes :=
  modify? .path (fun _ outer =>
    match outer.get? key with
    | none => (fill []).map fun inner => outer.put key (.tables [inner])
    | some (.tables elements) => (fill []).map fun inner =>
        outer.put key (.tables (elements ++ [inner]))
    | some _ => none) .header ns path

end Nodes

/-! ## Finished tables -/

mutual

/-- The value of a finished entry. -/
def Node.finish : Node → Value
  | .value v => v
  | .table _ entries => .table (finishEntries entries)
  | .tables elements => .list (finishElements elements)

/-- The values of finished entries. -/
def finishEntries : List (String × Node) → List (String × Value)
  | [] => []
  | (k, n) :: rest => (k, Node.finish n) :: finishEntries rest

/-- The values of finished tables. -/
def finishElements : List (List (String × Node)) → List Value
  | [] => []
  | ns :: rest => .table (finishEntries ns) :: finishElements rest

end

end SpamVerdict.Toml
