import SpamVerdict.Toml.Moment
import SpamVerdict.Toml.Number
import SpamVerdict.Toml.Quoted
import SpamVerdict.Toml.Table
set_option autoImplicit false

/-!
# Keys and values (SPEC_FULL §13)

A key is a word or a quoted text, or several of them between dots.  A value is a quoted text, a
truth value, a number, a moment, an array or an inline table; an array may run over several lines
and hold comments, an inline table may not.  Brackets nest less than eighty levels deep, and a key
has less than eighty parts.

What a value is good for is not asked here: which entries there are, and of which kind, is said
where the settings of SPEC_FULL §13 are made of the document.
-/

namespace SpamVerdict.Toml

open SpamVerdict.Settings (Value)

/-- The number of levels and parts that are too many. -/
def tooMany : Nat := 80

/-! ## Gaps -/

/-- The text behind a comment, if it starts with one; a control character ends the comment. -/
def dropComment : List Char → List Char
  | '#' :: cs => cs.dropWhile isOrdinary
  | cs => cs

/-- The text behind the rest of a line: blanks, an optional comment, and the line end or the end
of the text. -/
def afterLine? (cs : List Char) : Option (List Char) :=
  match dropComment (dropSpaces cs) with
  | [] => some []
  | rest => afterLineEnd? rest

/-- The text behind blanks, line ends and comments. -/
def dropGap (cs : List Char) : List Char :=
  let rest := dropComment (dropBlankLines cs)
  if rest.length < cs.length then dropGap rest else rest
termination_by cs.length

/-! ## Keys -/

/-- A character of a word. -/
def isWordChar (c : Char) : Bool := c.isAlphanum || c = '-' || c = '_'

/-- Reads one part of a key with the blanks around it. -/
def keyPart? (cs : List Char) : Option (String × List Char) :=
  let cs := dropSpaces cs
  let part := match cs with
    | '\x22' :: rest => basic? rest
    | '\x27' :: rest => literal? rest
    | _ =>
      match cs.takeWhile isWordChar with
      | [] => none
      | word => some (word, cs.dropWhile isWordChar)
  part.map fun (text, rest) => (String.ofList text, dropSpaces rest)

/-- Reads the parts of a key, as many as `limit`. -/
def keyParts? : Nat → List Char → Option (List String × List Char)
  | 0, _ => none
  | limit + 1, cs =>
    match keyPart? cs with
    | none => none
    | some (part, '.' :: rest) => (keyParts? limit rest).map fun (parts, rest) =>
        (part :: parts, rest)
    | some (part, rest) => some ([part], rest)

/-- A key: the parts that lead to its table, and the last part. -/
structure Key where
  path : List String
  last : String
  deriving DecidableEq, Repr

/-- Reads a key. -/
def key? (cs : List Char) : Option (Key × List Char) :=
  match keyParts? (tooMany - 1) cs with
  | none => none
  | some (parts, rest) => parts.getLast?.map fun last => (⟨parts.dropLast, last⟩, rest)

/-- Reads a key and the equals sign behind it, with the blanks around it. -/
def keyOfPair? (cs : List Char) : Option (Key × List Char) :=
  match key? cs with
  | some (key, '=' :: rest) => some (key, dropSpaces rest)
  | _ => none

/-! ## Values -/

/-- Reads a value without brackets. -/
def scalarValue? : List Char → Option (Value × List Char)
  | 't' :: 'r' :: 'u' :: 'e' :: rest => some (.bool true, rest)
  | 'f' :: 'a' :: 'l' :: 's' :: 'e' :: rest => some (.bool false, rest)
  | cs =>
    ((quoted? cs).map fun (text, rest) => (.text (String.ofList text), rest)) <|>
      ((moment? cs).map fun (text, rest) => (.text (String.ofList text), rest)) <|> number? cs

mutual

/-- Reads a value with at most `depth` levels of brackets. -/
def value? (fuel depth : Nat) (cs : List Char) : Option (Value × List Char) :=
  match fuel with
  | 0 => none
  | fuel + 1 =>
    match cs, depth with
    | '[' :: _, 0 => none
    | '\x7b' :: _, 0 => none
    | '[' :: cs, depth + 1 =>
      match dropGap cs with
      | ']' :: rest => some (.list [], rest)
      | cs => (items? fuel depth cs).map fun (items, rest) => (.list items, rest)
    | '\x7b' :: cs, depth + 1 =>
      match dropSpaces cs with
      | '\x7d' :: rest => some (.table [], rest)
      | cs => (pairs? fuel depth [] cs).map fun (ns, rest) => (.table (finishEntries ns), rest)
    | cs, _ => scalarValue? cs

/-- Reads the items of an array, of which there is at least one, and its closing bracket. -/
def items? (fuel depth : Nat) (cs : List Char) : Option (List Value × List Char) :=
  match fuel with
  | 0 => none
  | fuel + 1 =>
    match value? fuel depth (dropGap cs) with
    | none => none
    | some (item, rest) =>
      match dropGap rest with
      | ']' :: rest => some ([item], rest)
      | ',' :: rest =>
        match dropGap rest with
        | ']' :: rest => some ([item], rest)
        | rest => (items? fuel depth rest).map fun (items, rest) => (item :: items, rest)
      | _ => none

/-- Reads the pairs of an inline table, of which there is at least one, and its closing brace. -/
def pairs? (fuel depth : Nat) (ns : Nodes) (cs : List Char) : Option (Nodes × List Char) :=
  match fuel with
  | 0 => none
  | fuel + 1 =>
    match keyOfPair? cs with
    | none => none
    | some (key, cs) =>
      match value? fuel depth cs with
      | none => none
      | some (v, rest) =>
        match ns.insert? key.path key.last v, dropSpaces rest with
        | some ns, '\x7d' :: rest => some (ns, rest)
        | some ns, ',' :: rest => pairs? fuel depth ns rest
        | _, _ => none

end

/-- Reads a value. -/
def readValue? (cs : List Char) : Option (Value × List Char) :=
  value? (2 * cs.length + 2) (tooMany - 1) cs

end SpamVerdict.Toml
