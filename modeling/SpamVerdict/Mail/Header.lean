import SpamVerdict.Mail.Address
set_option autoImplicit false

/-!
# Addresses in a header block (SPEC_FULL §4.1)

The header block of a message is unfolded into lines, and the addresses it mentions are collected
from the most telling places first: headers that hold an address, the phrase "sender IP is", and
only if these yield nothing any word of the block that looks like an address.

This is step 2 of SPEC_FULL §4.1.  The four headers, and the one of which only the first element
counts, are those that it lists.  The phrase and the words are found by patterns; a `Pattern` is
written here as the function that the pattern means, and `captures` is the search with it.
-/

namespace SpamVerdict.Mail

/-! ## Unfolding -/

/-- A line that continues the one before it. -/
def isContinuation (line : List Char) : Bool :=
  line.head? == some ' ' || line.head? == some '\t'

/-- Puts a line behind a block: a continuation after a space and without blanks around it, any
other line after a line end. -/
def appendLine (block line : List Char) : List Char :=
  if isContinuation line then block ++ ' ' :: Text.trimOf Text.isBlank line
  else if block.isEmpty then line
  else block ++ '\n' :: line

/-- The header block with its continuation lines joined. -/
def unfold (header : List Char) : List Char :=
  (Text.lines header).foldl appendLine []

/-! ## Headers that hold an address -/

/-- The headers whose whole value is an address. -/
def addressHeaders : List String :=
  ["x-originating-ip", "x-sender-ip", "x-client-ip", "x-real-ip"]

/-- The header whose first element is an address. -/
def forwardHeader : String := "x-forwarded-for"

/-- The address that one line of a header block holds by its name. -/
def addressOfLine? (line : List Char) : Option Ip.Address :=
  match Text.cut? ':' line with
  | none => none
  | some (name, value) =>
    let name := Text.lowerAscii (String.ofList (Text.trimOf Text.isBlank name))
    if addressHeaders.contains name then normalizeIpChars? value
    else if name = forwardHeader then
      normalizeIpChars? (value.takeWhile (· ≠ ','))
    else none

/-! ## Searching a text -/

/-- A pattern: at the start of a text, and behind an optional character, it yields what it
captures and the text behind the match. -/
abbrev Pattern := Option Char → List Char → Option (List Char × List Char)

/-- What a pattern captures in a text, from left to right and without overlaps. -/
def captures (p : Pattern) (before : Option Char) (cs : List Char) : List (List Char) :=
  match cs with
  | [] => []
  | c :: rest =>
    match p before (c :: rest) with
    | none => captures p (some c) rest
    | some (capture, after) =>
      if after.length < rest.length + 1 then
        capture :: captures p ((c :: rest)[rest.length - after.length]?) after
      else [capture]
termination_by cs.length

/-- A letter of a phrase in either case; the long s counts as an s. -/
def matchesLetter (letter c : Char) : Bool :=
  c.toLower == letter || (letter == 's' && c == 'ſ')

/-- What follows a word of small letters, read in either case. -/
def afterWord? : List Char → List Char → Option (List Char)
  | [], cs => some cs
  | _ :: _, [] => none
  | l :: ls, c :: cs => if matchesLetter l c then afterWord? ls cs else none

/-- What follows at least one blank. -/
def afterBlanks? : List Char → Option (List Char)
  | [] => none
  | c :: cs => if Text.isBlank c then some (cs.dropWhile Text.isBlank) else none

/-- A character that an address can have. -/
def isAddressChar (c : Char) : Bool := Text.isHexDigit c || c == ':' || c == '.'

/-- A text without one character that it may start with. -/
def dropHead (c : Char) : List Char → List Char
  | [] => []
  | d :: cs => if d = c then cs else d :: cs

/-- The words "sender IP is" and an address, with or without brackets. -/
def senderPhrase : Pattern := fun _ cs => do
  let cs ← afterWord? "sender".toList cs
  let cs ← afterBlanks? cs
  let cs ← afterWord? "ip".toList cs
  let cs ← afterBlanks? cs
  let cs ← afterWord? "is".toList cs
  let cs ← afterBlanks? cs
  let cs := dropHead '[' cs
  let address := cs.takeWhile isAddressChar
  if address.isEmpty then none
  else return (address, dropHead ']' (cs.dropWhile isAddressChar))

/-- One to three digits at the start of a text, and the text behind all digits. -/
def digitRun? (cs : List Char) : Option (List Char × List Char) :=
  let ds := cs.takeWhile Char.isDigit
  if !ds.isEmpty && ds.length ≤ 3 then some (ds, cs.dropWhile Char.isDigit) else none

/-- One to three digits, and the text behind a dot that follows them. -/
def dottedRun? (cs : List Char) : Option (List Char × List Char) :=
  match digitRun? cs with
  | some (ds, '.' :: rest) => some (ds ++ ['.'], rest)
  | _ => none

/-- Four runs of digits between dots, up to a word boundary. -/
def dottedToken? (cs : List Char) : Option (List Char × List Char) := do
  let (a, cs) ← dottedRun? cs
  let (b, cs) ← dottedRun? cs
  let (c, cs) ← dottedRun? cs
  let (d, cs) ← digitRun? cs
  if cs.head?.any Text.isWordChar then none
  else return (a ++ b ++ c ++ d, cs)

/-- A word of hexadecimal digits and at least two colons, with dots behind the last colon. -/
def colonToken? (cs : List Char) : Option (List Char × List Char) :=
  let front := cs.takeWhile Text.isHexDigit
  match cs.dropWhile Text.isHexDigit with
  | ':' :: cs =>
    if (cs.takeWhile fun c => Text.isHexDigit c || c == ':').contains ':' then
      some (front ++ ':' :: cs.takeWhile isAddressChar, cs.dropWhile isAddressChar)
    else none
  | _ => none

/-- A word that looks like an address, from a word boundary on. -/
def addressToken : Pattern := fun before cs =>
  if Text.isBoundary before cs.head? then (dottedToken? cs).or (colonToken? cs) else none

/-! ## Candidates -/

/-- The addresses that an unfolded block names in its telling places. -/
def namedAddresses (block : List Char) : List Ip.Address :=
  (Text.lines block).filterMap addressOfLine? ++
    (captures senderPhrase none block).filterMap normalizeIpChars?

/-- The addresses among the words of an unfolded block. -/
def scannedAddresses (block : List Char) : List Ip.Address :=
  (captures addressToken none block).filterMap normalizeIpChars?

/-- The addresses that a header block mentions. -/
def candidates (header : String) : List Ip.Address :=
  let block := unfold header.toList
  match namedAddresses block with
  | [] => scannedAddresses block
  | found => found

end SpamVerdict.Mail
