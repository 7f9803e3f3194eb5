import SpamVerdict.Dns.Name
import SpamVerdict.Dns.Resolver
import SpamVerdict.Text.Blank
import SpamVerdict.Text.Utf8
set_option autoImplicit false

/-!
# Live name resolution (SPEC_FULL §4.2, §11)

What an exchange with a name server ends in, and the answer of a resolver made of it.  A reply
without records means that there are none unless its code is that of a server failure; names that
are malformed, and names set aside for special use, are settled before any exchange.

SPEC_FULL §4.2 keeps transport failures apart from the absence of records, and §11 lists the three
kinds of failures: no answer in time, a server failure, and everything else with its text.  What an
exchange itself does on the wire is a parameter (`Exchanges`).
-/

namespace SpamVerdict.Dns

/-- The response code of a reply. -/
abbrev ResponseCode := Nat

/-- The code of a reply that reports no error. -/
def ResponseCode.noError : ResponseCode := 0

/-- The code of a server failure. -/
def ResponseCode.serverFailure : ResponseCode := 2

/-- The code for a name that does not exist. -/
def ResponseCode.nonexistent : ResponseCode := 3

/-- A record of a reply. -/
inductive Record where
  /-- The parts of a text record, as bytes. -/
  | txt (parts : List (List UInt8))
  | address (ip : Ip.Address)
  /-- The host of a mail exchanger. -/
  | mx (host : String)

/-- What an exchange with a name server ended in. -/
inductive Exchange (α : Type) where
  | answered (records : List α)
  | withoutRecords (code : ResponseCode)
  | timedOut
  | failed (text : String)

/-- The records that an exchange yields. -/
def Exchange.settle {α : Type} : Exchange α → Except Fault (List α)
  | answered records => .ok records
  | withoutRecords code => if code = .serverFailure then .error .serverFailure else .ok []
  | timedOut => .error .timeout
  | failed text => .error (.other text)

/-- The text of a text record: each part decoded by itself. -/
def textOfParts (parts : List (List UInt8)) : String :=
  String.ofList (parts.flatMap Text.Utf8.decodeLossy)

/-! ## The resolver -/

/-- The exchanges with name servers that stand behind a resolver. -/
structure Exchanges where
  txt : String → Exchange (List (List UInt8))
  address : Ip.Family → String → Exchange Ip.Address
  mx : String → Exchange String

/-- The outcome for a name: a fault for a malformed one, the fixed records of special use, or
else the exchange. -/
def settleName {α : Type} (name : String) (loopback : List α) (exchange : Exchange α) :
    Except Fault (List α) :=
  match labels? name with
  | none => .error (.other "malformed name")
  | some labels =>
    match specialUse? labels with
    | some .loopback => .ok loopback
    | some .nonexistent => Exchange.settle (.withoutRecords .nonexistent)
    | none => exchange.settle

/-- The loopback address of a family. -/
def loopbackOf : Ip.Family → Ip.Address
  | .v4 => .v4 ⟨127, 0, 0, 1⟩
  | .v6 => .v6 ⟨0, 0, 0, 0, 0, 0, 0, 1⟩

/-- The resolver over exchanges with name servers.  Exchangers come without the root dot, and one
that is the root itself is left out. -/
def Exchanges.resolver (e : Exchanges) : Resolver where
  txt name := (settleName name [] (e.txt name)).map (·.map textOfParts)
  address family name := settleName name [loopbackOf family] (e.address family name)
  mx name := (settleName name [] (e.mx name)).map fun hosts =>
    (hosts.map Text.trimDots).filter (!·.isEmpty)

end SpamVerdict.Dns
