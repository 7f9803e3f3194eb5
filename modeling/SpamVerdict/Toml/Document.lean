import SpamVerdict.Toml.Reading
set_option autoImplicit false

/-!
# Documents (SPEC_FULL §13)

A document is a list of lines: empty ones, headers that open tables, and pairs of a key and a
value, which belong to the table opened last.  `Document.table?` is the table of the whole
document, and there is none if any line cannot be read or added.

By SPEC_FULL §13 the file with the settings is such a document.
-/

namespace SpamVerdict.Toml

open SpamVerdict.Settings (Value)

/-- A line of a document; a value may make it run over several lines of the text. -/
inductive Line where
  | empty
  /-- Opens a table. -/
  | header (key : Key)
  /-- Opens one more table of a list. -/
  | element (key : Key)
  | pair (key : Key) (v : Value)

/-- Reads the closing brackets of a header. -/
def afterBrackets? : Nat → List Char → Option (List Char)
  | 0, cs => some cs
  | n + 1, ']' :: cs => afterBrackets? n cs
  | _ + 1, _ => none

/-- Reads a header behind its opening brackets, up to the end of the line. -/
def header? (brackets : Nat) (line : Key → Line) (cs : List Char) : Option (Line × List Char) := do
  let (key, cs) ← key? cs
  let cs ← afterBrackets? brackets cs
  let cs ← afterLine? cs
  return (line key, cs)

/-- Reads a pair, up to the end of the line. -/
def pair? (cs : List Char) : Option (Line × List Char) := do
  let (key, cs) ← keyOfPair? cs
  let (v, cs) ← readValue? cs
  let cs ← afterLine? cs
  return (.pair key v, cs)

/-- Reads one line. -/
def line? (cs : List Char) : Option (Line × List Char) :=
  match dropSpaces cs with
  | '[' :: '[' :: rest => header? 2 .element rest
  | '[' :: rest => header? 1 .header rest
  | rest =>
    match afterLine? rest with
    | some rest => some (.empty, rest)
    | none => pair? rest

/-- Reads all lines. -/
def readLines? (cs : List Char) : Option (List Line) :=
  match cs with
  | [] => some []
  | c :: cs' =>
    match line? (c :: cs') with
    | none => none
    | some (line, rest) =>
      if rest.length ≤ cs'.length then (readLines? rest).map (line :: ·) else none
termination_by cs.length

/-! ## Sections -/

/-- The pairs under one header. -/
structure Section where
  key : Key
  /-- The header opens one more table of a list. -/
  isElement : Bool
  pairs : List (Key × Value)

/-- The pairs in front of all headers, and the sections. -/
def sections : List Line → List (Key × Value) × List Section
  | [] => ([], [])
  | .empty :: ls => sections ls
  | .pair key v :: ls =>
    let (pairs, rest) := sections ls
    ((key, v) :: pairs, rest)
  | .header key :: ls =>
    let (pairs, rest) := sections ls
    ([], ⟨key, false, pairs⟩ :: rest)
  | .element key :: ls =>
    let (pairs, rest) := sections ls
    ([], ⟨key, true, pairs⟩ :: rest)

/-- Adds pairs to a table. -/
def fill? (pairs : List (Key × Value)) (ns : Nodes) : Option Nodes :=
  pairs.foldlM (fun ns (key, v) => ns.insert? key.path key.last v) ns

/-- Adds a section to a document. -/
def Section.addTo? (s : Section) (ns : Nodes) : Option Nodes :=
  if s.isElement then ns.openElement? s.key.path s.key.last (fill? s.pairs)
  else ns.openTable? s.key.path s.key.last (fill? s.pairs)

/-- The table that a whole text describes; a byte-order mark at its start is skipped. -/
def table? (text : String) : Option (List (String × Value)) := do
  let lines ← readLines? (match text.toList with
    | '\ufeff' :: cs => cs
    | cs => cs)
  let (pairs, rest) := sections lines
  let start ← fill? pairs []
  return finishEntries (← rest.foldlM (fun ns s => s.addTo? ns) start)

end SpamVerdict.Toml
