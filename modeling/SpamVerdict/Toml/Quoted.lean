import SpamVerdict.Text.CharClass
set_option autoImplicit false

/-!
# Quoted texts (SPEC_FULL §13)

A text stands between quotation marks, and then backslashes escape, or between apostrophes, and
then nothing does.  One mark on each side keeps the text on one line; three allow line ends in it,
of which one at the very beginning is dropped.  Addresses, levels and actions are texts in the
document of SPEC_FULL §13.
-/

namespace SpamVerdict.Toml

/-- A character that stands for itself in a comment and in every quoted text: a tab, or anything
that is no control character. -/
def isOrdinary (c : Char) : Bool := c = '\t' || (' ' ≤ c && c ≠ '\x7f')

/-- A blank within a line. -/
def isSpace (c : Char) : Bool := c = ' ' || c = '\t'

/-- The text without the blanks at its start. -/
def dropSpaces (cs : List Char) : List Char := cs.dropWhile isSpace

/-- What follows a line end. -/
def afterLineEnd? : List Char → Option (List Char)
  | '\n' :: cs => some cs
  | '\r' :: '\n' :: cs => some cs
  | _ => none

/-- The text without the blanks and line ends at its start. -/
def dropBlankLines : List Char → List Char
  | '\r' :: '\n' :: cs => dropBlankLines cs
  | c :: cs => if isSpace c || c = '\n' then dropBlankLines cs else c :: cs
  | [] => []

/-- The character with a number, unless the number is a surrogate or too large. -/
def scalar? (n : Nat) : Option Char :=
  if n < 0xD800 || (0xDFFF < n && n < 0x110000) then some (Char.ofNat n) else none

/-- The character that hexadecimal digits stand for. -/
def hexChar? (digits : List Char) : Option Char :=
  (digits.mapM Text.hexValue?).bind fun ds => scalar? (ds.foldl (fun n d => 16 * n + d) 0)

/-- The character that a letter stands for behind a backslash. -/
def letterEscape? : Char → Option Char
  | 'b' => some '\x08'
  | 't' => some '\t'
  | 'n' => some '\n'
  | 'f' => some '\x0c'
  | 'r' => some '\r'
  | '\x22' => some '\x22'
  | '\x5c' => some '\x5c'
  | _ => none

/-- Reads what follows a backslash: the character it stands for. -/
def escape? : List Char → Option (Char × List Char)
  | 'u' :: a :: b :: c :: d :: cs => (hexChar? [a, b, c, d]).map (·, cs)
  | 'U' :: a :: b :: c :: d :: e :: f :: g :: h :: cs =>
    (hexChar? [a, b, c, d, e, f, g, h]).map (·, cs)
  | c :: cs => (letterEscape? c).map (·, cs)
  | [] => none

/-- Reads a text with escapes up to its closing quotation mark. -/
def basic? (cs : List Char) : Option (List Char × List Char) :=
  match cs with
  | [] => none
  | '\x22' :: rest => some ([], rest)
  | '\x5c' :: cs' => do
    let (c, rest) ← escape? cs'
    if rest.length ≤ cs'.length then
      let (text, rest) ← basic? rest
      return (c :: text, rest)
    else none
  | c :: rest =>
    if isOrdinary c then do
      let (text, rest) ← basic? rest
      return (c :: text, rest)
    else none
termination_by cs.length

/-- Reads a text without escapes up to its closing apostrophe. -/
def literal? : List Char → Option (List Char × List Char)
  | [] => none
  | '\x27' :: rest => some ([], rest)
  | c :: rest =>
    if isOrdinary c then (literal? rest).map fun (text, rest) => (c :: text, rest) else none

/-- Three marks close a text of several lines; up to two more of them belong to its end. -/
def closing? (mark : Char) : List Char → Option (List Char × List Char)
  | a :: b :: c :: cs =>
    if a = mark && b = mark && c = mark then
      let more := (cs.take 2).takeWhile (· = mark)
      some (more, cs.drop more.length)
    else none
  | _ => none

/-- What follows a backslash at the end of a line, the blank lines behind it included. -/
def afterJoin? (cs : List Char) : Option (List Char) :=
  (afterLineEnd? (dropSpaces cs)).map dropBlankLines

/-- Reads a text of several lines up to its closing marks; `escapes` tells whether backslashes
escape. -/
def lines? (mark : Char) (escapes : Bool) (cs : List Char) : Option (List Char × List Char) :=
  match closing? mark cs with
  | some close => some close
  | none =>
    match afterLineEnd? cs with
    | some rest =>
      if rest.length < cs.length then
        (lines? mark escapes rest).map fun (text, rest) => ('\n' :: text, rest)
      else none
    | none =>
      match cs with
      | [] => none
      | c :: rest =>
        if c = '\x5c' && escapes then
          match afterJoin? rest with
          | some rest' => if rest'.length ≤ rest.length then lines? mark escapes rest' else none
          | none => do
            let (d, rest') ← escape? rest
            if rest'.length ≤ rest.length then
              let (text, rest') ← lines? mark escapes rest'
              return (d :: text, rest')
            else none
        else if isOrdinary c then
          (lines? mark escapes rest).map fun (text, rest) => (c :: text, rest)
        else none
termination_by cs.length

/-- Reads a text of several lines behind its opening marks. -/
def manyLines? (mark : Char) (escapes : Bool) (cs : List Char) :
    Option (List Char × List Char) :=
  lines? mark escapes ((afterLineEnd? cs).getD cs)

/-- Reads a quoted text. -/
def quoted? : List Char → Option (List Char × List Char)
  | '\x22' :: '\x22' :: '\x22' :: cs => manyLines? '\x22' true cs
  | '\x22' :: cs => basic? cs
  | '\x27' :: '\x27' :: '\x27' :: cs => manyLines? '\x27' false cs
  | '\x27' :: cs => literal? cs
  | _ => none

end SpamVerdict.Toml
