import SpamVerdict.Decimal.Numeral
import SpamVerdict.Http.Percent
import SpamVerdict.Text.Blank
import SpamVerdict.Text.Utf8
import SpamVerdict.Audit.Row
set_option autoImplicit false

/-!
# Routes (SPEC_FULL §15)

The path of a request names a resource by its segments, which are compared as they are written;
only the segment that holds the number of a ticket is decoded.

The resources and their methods are those of SPEC_FULL §15.  A resource that is asked for without
its body (`HEAD`) understands that wherever it understands `GET`.
-/

namespace SpamVerdict.Service

/-- What a request is about; the number of a ticket is still a segment of the path. -/
inductive Resource where
  | health
  | readiness
  | checks
  | policy
  | ticketCreated (segment : List Char)
  | ticketSpam (segment : List Char)
  deriving DecidableEq, Repr

/-- What a request wants to be done; asking for the head of an answer alone is apart. -/
inductive Method where
  | get
  | head
  | post
  | put
  | other
  deriving DecidableEq, Repr

/-- The method with a name. -/
def Method.ofName (name : String) : Method :=
  if name = "GET" then get
  else if name = "HEAD" then head
  else if name = "POST" then post
  else if name = "PUT" then put
  else other

/-- The methods that a resource understands. -/
def Resource.allows : Resource → Method → Bool
  | health, m => m = .get || m = .head
  | readiness, m => m = .get || m = .head
  | checks, m => m = .post
  | policy, m => m = .get || m = .head || m = .put
  | ticketCreated _, m => m = .post
  | ticketSpam _, m => m = .get || m = .head || m = .post

/-- What follows the scheme of a target that names one. -/
def afterScheme? (cs : List Char) : Option (List Char) :=
  let isSchemeChar (c : Char) : Bool := c.isAlphanum || c == '+' || c == '-' || c == '.'
  match cs.takeWhile isSchemeChar, cs.dropWhile isSchemeChar with
  | _ :: _, ':' :: '/' :: '/' :: rest => some rest
  | _, _ => none

/-- The path of a target, without scheme, host, query and fragment. -/
def pathOf (target : List Char) : List Char :=
  let path := match afterScheme? target with
    | some rest => rest.dropWhile fun c => c ≠ '/' && c ≠ '?' && c ≠ '#'
    | none => target
  path.takeWhile fun c => c ≠ '?' && c ≠ '#'

/-- The segments of a path, which starts with a slash. -/
def segments? (target : String) : Option (List (List Char)) :=
  match Text.split (· == '/') (pathOf target.toList) with
  | [] :: segments => some segments
  | _ => none

/-- The resource that a path names. -/
def Resource.ofPath? (target : String) : Option Resource := do
  match (← segments? target).map fun s => (s, String.ofList s) with
  | [(_, "health")] => return health
  | [(_, "health"), (_, "ready")] => return readiness
  | [(_, "api"), (_, "v1"), (_, "checks")] => return checks
  | [(_, "api"), (_, "v1"), (_, "policy")] => return policy
  | [(_, "api"), (_, "v1"), (_, "tickets"), (id, _), (_, "created")] => return ticketCreated id
  | [(_, "api"), (_, "v1"), (_, "tickets"), (id, _), (_, "spam")] => return ticketSpam id
  | _ => none

/-- The number of a ticket in a segment: an integer of 64 bits in decimal digits. -/
def ticket? (segment : List Char) : Option Ticket :=
  (Text.Utf8.decode? (Http.percentDecode segment)).bind Decimal.int64?

end SpamVerdict.Service
