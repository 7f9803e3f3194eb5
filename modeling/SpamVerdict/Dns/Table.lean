import SpamVerdict.Dns.Resolver
import SpamVerdict.Text.Case
set_option autoImplicit false

/-!
# Tables of records (SPEC_FULL §4.2, §16)

A `Table` lists records by name and the names for which every query fails.  Names are compared in
lower case.  `Overrides` are answers given in front of a resolver, by exact name.

By SPEC_FULL §16 evaluations are tested against such a table in place of the name servers, which §9
asks the adapter to allow.  Every failure of a table is a server failure.
-/

namespace SpamVerdict.Dns

/-- Records by lower-case name, in the order of their publication. -/
structure Table where
  txt : List (String × String) := []
  addresses : List (String × Ip.Address) := []
  mx : List (String × String) := []
  failing : List String := []

/-- The values listed under a key. -/
def valuesOf {α : Type} (key : String) (pairs : List (String × α)) : List α :=
  (pairs.filter (·.1 == key)).map (·.2)

namespace Table

/-- The table with one more text record. -/
def withTxt (t : Table) (name record : String) : Table :=
  { t with txt := t.txt ++ [(Text.lower name, record)] }

/-- The table with one more address. -/
def withAddress (t : Table) (name : String) (ip : Ip.Address) : Table :=
  { t with addresses := t.addresses ++ [(Text.lower name, ip)] }

/-- The table with one more mail exchanger, written without its root dot. -/
def withMx (t : Table) (name exchange : String) : Table :=
  { t with mx := t.mx ++ [(Text.lower name, Text.trimDots exchange)] }

/-- The table with every query for one more name failing. -/
def withFailure (t : Table) (name : String) : Table :=
  { t with failing := Text.lower name :: t.failing }

/-- The answer about a name, unless the name fails. -/
def answer {α : Type} (t : Table) (name : String) (records : String → List α) :
    Except Fault (List α) :=
  let key := Text.lower name
  if t.failing.contains key then .error .serverFailure else .ok (records key)

/-- The answers that a table gives. -/
def resolver (t : Table) : Resolver where
  txt name := t.answer name fun key => valuesOf key t.txt
  address family name := t.answer name fun key =>
    (valuesOf key t.addresses).filter (·.family = family)
  mx name := t.answer name fun key => valuesOf key t.mx

end Table

/-- Answers given in front of a resolver. -/
structure Overrides where
  faults : List (Query × Fault) := []
  mx : List (String × List String) := []

namespace Overrides

/-- The fault or the exchangers that are given for a query. -/
def covers (o : Overrides) (q : Query) : Bool :=
  (o.faults.lookup q).isSome ||
    match q with
    | .mx name => (o.mx.lookup name).isSome
    | _ => false

/-- The resolver behind the overrides. -/
def inFrontOf (o : Overrides) (r : Resolver) : Resolver where
  txt name :=
    match o.faults.lookup (.txt name) with
    | some fault => .error fault
    | none => r.txt name
  address family name :=
    match o.faults.lookup (.address family name) with
    | some fault => .error fault
    | none => r.address family name
  mx name :=
    match o.faults.lookup (.mx name), o.mx.lookup name with
    | some fault, _ => .error fault
    | none, some hosts => .ok hosts
    | none, none => r.mx name

end Overrides

end SpamVerdict.Dns
