import SpamVerdict.Idn.Composition
import SpamVerdict.Idn.Direction
import SpamVerdict.Idn.Joining
import SpamVerdict.Idn.Punycode
import SpamVerdict.Idn.Repertoire
set_option autoImplicit false

/-!
# Host names of all scripts

A name may be given in any script and is written in ASCII.  Its characters are replaced by what
they stand for, the text is put into its one writing and cut into labels at the full stops, and
labels in ASCII that are marked as coded are read as the labels that they stand for.  `Rules`
says which characters and labels are allowed; `Rules.labels?` gives the labels of a name and
`writtenLabel` the ASCII form of each.

Two sets of rules are in use: one for the hosts of endpoints (SPEC_FULL §13) and one, of an earlier
edition, for the names that are asked for (§4.2).
-/

namespace SpamVerdict.Idn

/-- What is allowed in a name. -/
structure Rules where
  /-- The text that a character stands for; `none` for one that is refused. -/
  image? : Char → Option (List Char)
  /-- A character that may stand in a label that is given in its coded form. -/
  isLasting : Char → Bool
  /-- A character that no label has once all are replaced. -/
  isRefused : Char → Bool
  /-- Joiners stand only where they make a difference. -/
  checksJoiners : Bool
  /-- A coded form may stand for a label in ASCII. -/
  codesAscii : Bool

/-- A text in ASCII. -/
def isAscii (cs : List Char) : Bool := cs.all (·.toNat < 128)

/-- The mark in front of a coded label. -/
def codeMark : List Char := "xn--".toList

/-- The greatest length of a coded label behind its mark. -/
def codeLimit : Nat := 2000

/-- The greatest number of characters of a label that is to be coded. -/
def labelLimit : Nat := 1000

/-- A label without refused characters that does not begin with a mark. -/
def Rules.allows (rules : Rules) (label : List Char) : Bool :=
  !label.any rules.isRefused && !label.head?.any isMark &&
    (!rules.checksJoiners || joinersFit [] label)

/-- The label that a text between full stops stands for. -/
def Rules.label? (rules : Rules) (text : List Char) : Option (List Char) :=
  if codeMark.isPrefixOf text then
    let code := text.drop codeMark.length
    if codeLimit < code.length then none
    else do
      let label ← Punycode.decode? code
      if label.all rules.isLasting && isNormal label && rules.allows label &&
          (rules.codesAscii || !isAscii label) then
        some label
      else none
  else if rules.allows text && (isAscii text || text.length ≤ labelLimit) then some text
  else none

/-- The labels of a name: each is allowed, and all keep to one direction if one has characters
from right to left. -/
def Rules.labels? (rules : Rules) (name : List Char) : Option (List (List Char)) := do
  let images ← name.mapM rules.image?
  let labels ← (Text.split (· == '.') (normalize images.flatten)).mapM rules.label?
  if labels.any hasRightToLeft && !labels.all keepsDirection then none
  return labels

/-- The ASCII form of a label. -/
def writtenLabel (label : List Char) : List Char :=
  if isAscii label then label else codeMark ++ Punycode.encode label

end SpamVerdict.Idn
