import SpamVerdict.Http.Percent
import SpamVerdict.Text.Blank
set_option autoImplicit false

/-!
# Form-encoded queries (SPEC_FULL §6)

The reputation service of SPEC_FULL §6 is asked by the query of an address, which holds what the
sender wrote.

A query is a list of pairs of texts.  In its written form pairs stand between ampersands, a name
and its value around an equals sign, a space is a plus sign, and every byte that is not a letter,
a digit or one of four marks is percent-encoded.  `Form.decode` reads such a query back.
-/

namespace SpamVerdict.Http.Form

/-- A character that stands for itself. -/
def isPlain (c : Char) : Bool :=
  c.isAlphanum || c == '*' || c == '-' || c == '.' || c == '_'

/-- A name or a value as it is written. -/
def encodeText (cs : List Char) : List Char :=
  cs.flatMap fun c =>
    if isPlain c then [c]
    else if c = ' ' then ['+']
    else (String.utf8EncodeChar c).flatMap percentByte

/-- A pair as it is written. -/
def encodePair (p : List Char × List Char) : List Char :=
  encodeText p.1 ++ '=' :: encodeText p.2

/-- A query with more pairs put behind it. -/
def append (query : List Char) (pairs : List (List Char × List Char)) : List Char :=
  pairs.foldl (fun q p => if q.isEmpty then encodePair p else q ++ '&' :: encodePair p) query

/-- A name or a value as it is read. -/
def decodeText (cs : List Char) : List Char :=
  Text.Utf8.decodeLossy (percentDecode (cs.map fun c => if c = '+' then ' ' else c))

/-- A pair as it is read; without an equals sign the value is empty. -/
def decodePair (cs : List Char) : List Char × List Char :=
  match Text.cut? '=' cs with
  | some (name, value) => (decodeText name, decodeText value)
  | none => (decodeText cs, [])

/-- The pairs of a query. -/
def decode (query : List Char) : List (List Char × List Char) :=
  ((Text.split (· == '&') query).filter (!·.isEmpty)).map decodePair

end SpamVerdict.Http.Form
