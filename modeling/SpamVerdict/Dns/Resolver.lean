import SpamVerdict.Ip.Address
set_option autoImplicit false

/-!
# Name resolution (SPEC_FULL §4.2)

SPEC_FULL §4.2 asks for three capabilities, the look-up of text records, of addresses of one family
and of mail exchangers, each with a list or a failure as its result.

A `Resolver` is the fixed table of answers that name servers give to these.  A name without such
records has the empty answer; a `Fault` means that there is no answer at all.  An evaluation is a
function of such a table, so a query that it repeats has the same answer both times, and nothing is
kept from one evaluation to the next (§1).
-/

namespace SpamVerdict.Dns

/-- Why a query has no answer. -/
inductive Fault where
  /-- No server answered in time. -/
  | timeout
  /-- The server could not resolve the name. -/
  | serverFailure
  /-- Anything else, with its description. -/
  | other (text : String)
  deriving DecidableEq, Repr

/-- The text of a fault. -/
def Fault.message : Fault → String
  | timeout => "DNS query timed out"
  | serverFailure => "DNS server failure"
  | other text => "DNS error: " ++ text

/-- A question to the name servers. -/
inductive Query where
  | txt (name : String)
  | address (family : Ip.Family) (name : String)
  | mx (name : String)
  deriving DecidableEq, Repr

/-- The name that a query is about. -/
def Query.name : Query → String
  | txt name => name
  | address _ name => name
  | mx name => name

/-- The answers of the name servers. -/
structure Resolver where
  /-- The text records of a name, each with its parts joined. -/
  txt : String → Except Fault (List String)
  /-- The addresses of a name in one family. -/
  address : Ip.Family → String → Except Fault (List Ip.Address)
  /-- The mail exchangers of a name. -/
  mx : String → Except Fault (List String)

end SpamVerdict.Dns
