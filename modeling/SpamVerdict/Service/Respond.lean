import SpamVerdict.Checker.State
import SpamVerdict.Http.MediaType
import SpamVerdict.Service.Route
set_option autoImplicit false

/-!
# Answers to requests (SPEC_FULL §15)

The service answers requests of the host: checks of messages, tickets that were opened, marks of
operators and changes of the policy.  A request is refused at the first of these points: no such
resource, method not understood, unreadable ticket number, unreadable body, and what the checker
itself refuses.

SPEC_FULL §15 lists the resources with their methods, bodies and answers: 204 for a message without
a header block, 404 for a ticket with no row or no outcome to write, and everything that goes wrong
in the audit store with the status of the failure (§11).  `/health/ready` asks the store whether it
is there; `/health` asks nothing.  Of an answer the status and the data are modelled, not its
headers.
-/

namespace SpamVerdict.Service

/-- A request of the host. -/
structure Request where
  method : Method
  /-- The path with query and fragment, as it was sent. -/
  path : String
  contentType : Option String
  body : List UInt8

/-- What an answer carries. -/
inductive Payload where
  | none
  | value (v : Json)
  | row (row : Audit.Row)

/-- An answer. -/
structure Response where
  status : Nat
  payload : Payload

namespace Response

/-- An answer that is only a status. -/
def only (status : Nat) : Response := ⟨status, .none⟩

/-- A successful answer with a value. -/
def value (v : Json) : Response := ⟨200, .value v⟩

/-- The answer about a row that may be missing. -/
def ofRow : Except Failure (Option Audit.Row) → Response
  | .ok (some row) => ⟨200, .row row⟩
  | .ok Option.none => only 404
  | .error failure => only failure.status

/-- The answer without what it carries. -/
def withoutPayload (r : Response) : Response := only r.status

end Response

/-! ## Bodies -/

/-- The largest body that is read, in bytes. -/
def maxBody : Nat := 2 * 1024 * 1024

/-- Reads the JSON data at the start of a body, or gives the status that refuses it.  The texts
that the data are made of must be UTF-8; bytes that nothing reads need not be. -/
def readBody {α : Type} (read : Json.Reader α) (r : Request) : Except Nat α :=
  if !(r.contentType.bind Http.MediaType.parse?).any Http.MediaType.isJson then .error 415
  else if maxBody < r.body.length then .error 413
  else match Json.readFront read r.body with
    | .ok x => .ok x
    | .error .malformed => .error 400
    | .error .mismatch => .error 422

/-- What the host tells about a ticket that was opened for a message. -/
structure Opening where
  email : String
  mid : String

/-- The parts of an opening in their order, by name. -/
def Opening.record : Json.Record Opening where
  default := ⟨"", ""⟩
  fields := [
    .of .never "email" .text fun x o => { o with email := x },
    .of .always "mid" .text fun x o => { o with mid := x }]

/-- The address that an operator gives with a mark, as the only field of a record. -/
def markRecord : Json.Record String where
  default := ""
  fields := [.of .always "email" .text fun x _ => x]

/-- A policy that the service takes: scores are finite, and confidences lie between nought and a
hundred. -/
def isAcceptable (p : Policy) : Bool :=
  p.minBlockScore.isFinite && Decimal.ofInt 0 ≤ p.sfsMinConfidence &&
    p.sfsMinConfidence ≤ Decimal.ofInt 100

/-- An outcome as the host reads it. -/
def outcomeJson (o : Checker.Outcome) : Json := Json.ofPairs [
  ("provider", .string o.decision.providerTag),
  ("score", .string o.decision.scoreText),
  ("should_block", .string o.decision.flag),
  ("would_block", .bool o.decision.wouldBlock),
  ("triggered", .ofStrings o.decision.triggered),
  ("ip", .string o.ip),
  ("results", .array (o.reports.map (·.toJson)))]

/-! ## Resources -/

section Resources

variable {σ : Type} [Audit.Repository σ]

/-- Carries out an order on a ticket, unless its number cannot be read. -/
def onTicket (segment : List Char) (s : Checker.State σ)
    (order : Ticket → Response × Checker.State σ) : Response × Checker.State σ :=
  match ticket? segment with
  | none => (.only 400, s)
  | some ticket => order ticket

/-- Whether the service can do its work: the audit store must be within reach. -/
def readiness (s : Checker.State σ) : Response × Checker.State σ :=
  match Audit.Repository.health s.audit with
  | (.ok (), audit) => (.only 200, { s with audit })
  | (.error _, audit) => (.only 503, { s with audit })

/-- Shows the row of a ticket. -/
def showTicket (s : Checker.State σ) (ticket : Ticket) : Response × Checker.State σ :=
  let (answer, s) := s.lookup ticket
  (.ofRow answer, s)

/-- Answers a question. -/
def consult (s : Checker.State σ) : Resource → Response × Checker.State σ
  | .health => (.value (Json.ofPairs [("status", .string "healthy")]), s)
  | .readiness => readiness s
  | .policy => (.value s.policy.toJson, s)
  | .ticketSpam segment => onTicket segment s (showTicket s)
  | .checks => (.only 405, s)
  | .ticketCreated _ => (.only 405, s)

/-- Checks the message in a body. -/
def createCheck (c : Checker) (peers : Http.Peers) (now : Instant) (s : Checker.State σ)
    (r : Request) : Response × Checker.State σ :=
  match readBody (Json.Reader.members Json.maxDepth) r with
  | .error status => (.only status, s)
  | .ok vars =>
    match s.checkVars c now peers vars with
    | (some o, s) => (.value (outcomeJson o), s)
    | (none, s) => (.only 204, s)

/-- Puts the policy in a body in force. -/
def updatePolicy (s : Checker.State σ) (r : Request) : Response × Checker.State σ :=
  match readBody Policy.record.read r with
  | .error status => (.only status, s)
  | .ok p =>
    if isAcceptable p then (.value p.toJson, { s with policy := p }) else (.only 422, s)

/-- Records the ticket that was opened for a message. -/
def ticketCreated (c : Checker) (now : Instant) (s : Checker.State σ) (ticket : Ticket)
    (r : Request) : Response × Checker.State σ :=
  match readBody Opening.record.read r with
  | .error status => (.only status, s)
  | .ok o =>
    let (answer, s) := s.ticketCreated c now ticket o.email o.mid
    (.ofRow answer, s)

/-- Marks a ticket as spam. -/
def markTicket (now : Instant) (s : Checker.State σ) (ticket : Ticket) (r : Request) :
    Response × Checker.State σ :=
  match readBody markRecord.read r with
  | .error status => (.only status, s)
  | .ok email =>
    let (answer, s) := s.markSpam now ticket email
    (.ofRow (answer.map some), s)

/-- The answer to a request about a resource that understands its method. -/
def perform (c : Checker) (peers : Http.Peers) (now : Instant) (s : Checker.State σ) (r : Request)
    (resource : Resource) : Response × Checker.State σ :=
  match r.method, resource with
  | .get, _ => consult s resource
  | .head, _ =>
    let (answer, s) := consult s resource
    (answer.withoutPayload, s)
  | _, .checks => createCheck c peers now s r
  | _, .policy => updatePolicy s r
  | _, .ticketCreated segment => onTicket segment s fun ticket => ticketCreated c now s ticket r
  | _, .ticketSpam segment => onTicket segment s fun ticket => markTicket now s ticket r
  | _, .health => (.only 405, s)
  | _, .readiness => (.only 405, s)

/-- The answer to a request, and the state behind it. -/
def respond (c : Checker) (peers : Http.Peers) (now : Instant) (s : Checker.State σ)
    (r : Request) : Response × Checker.State σ :=
  match Resource.ofPath? r.path with
  | none => (.only 404, s)
  | some resource =>
    if resource.allows r.method then perform c peers now s r resource else (.only 405, s)

end Resources

end SpamVerdict.Service
