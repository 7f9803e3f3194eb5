import SpamVerdict.Service.Respond
import SpamVerdict.Proofs.Audit.Laws
import SpamVerdict.Proofs.Checker.TestMode
set_option autoImplicit false

/-!
# What a request leaves behind (SPEC_FULL §15)

SPEC_FULL §15 gives every resource of the service its methods and answers.  Whatever a request can
do is said once (`Ends`): a check, a policy, a row for a message and a mark are written, each behind
the answer 200 to a request that is no question; the audit store is asked something; or it refuses
a write.  A store that keeps its rows when it is only asked, and when it refuses (`Audit.Keeps`),
shows no trace of the last two, whether it is in memory or on a server that may fail at any time.

So requests that are refused and questions leave no trace: the policy, what is remembered and all
rows stay as they are, and whoever was refused may put it right and ask again
(`idle_calls_traceless`).
-/

namespace SpamVerdict.Service

open Checker (sentry)

/-! ## States that show the same -/

section SameFor

variable {σ β : Type} {view : σ → β} {s t u : Checker.State σ}

/-- Two states in which the same policy is in force and the same outcomes are remembered, and of
whose audit stores a view shows the same. -/
structure SameFor (view : σ → β) (s t : Checker.State σ) : Prop where
  policy : s.policy = t.policy
  recent : s.recent = t.recent
  audit : view s.audit = view t.audit

theorem SameFor.refl (view : σ → β) (s : Checker.State σ) : SameFor view s s :=
  ⟨rfl, rfl, rfl⟩

theorem SameFor.trans (hst : SameFor view s t) (htu : SameFor view t u) : SameFor view s u :=
  ⟨hst.policy.trans htu.policy, hst.recent.trans htu.recent, hst.audit.trans htu.audit⟩

/-- Where everything can be seen of an audit store, the states are the same. -/
theorem SameFor.eq (h : SameFor id s t) : s = t := by
  obtain ⟨policy, recent, audit⟩ := s
  obtain ⟨rfl, rfl, rfl⟩ := h
  rfl

end SameFor

/-! ## How a request ends -/

/-- A request, and what peers answer while it is served. -/
structure Call where
  peers : Http.Peers
  request : Request

section Calls

variable {σ : Type} [Audit.Repository σ]

/-- Serves a call. -/
def serve (c : Checker) (s : Checker.State σ) (now : Instant) (call : Call) :
    Response × Checker.State σ :=
  respond c call.peers now s call.request

/-- The ways in which a request with a method ends: its answer, and the state behind it. -/
inductive Ends (c : Checker) (now : Instant) (s : Checker.State σ) :
    Method → Response × Checker.State σ → Prop where
  /-- Nothing is asked of the audit store and nothing written, whatever the answer. -/
  | still (method : Method) (answer : Response) : Ends c now s method (answer, s)
  /-- The audit store was asked something. -/
  | consulted (method : Method) (answer : Response) {audit : σ}
      (haudit : audit = (Audit.Repository.health s.audit).2 ∨
        ∃ ticket, audit = (Audit.Repository.lookup s.audit ticket).2) :
      Ends c now s method (answer, { s with audit })
  /-- The audit store refused a write. -/
  | refused {failure : Failure} {audit : σ}
      (hfailed : (∃ f, Audit.Repository.upsert s.audit now f = (.error failure, audit)) ∨
        ∃ ticket email,
          Audit.Repository.markSpam s.audit now ticket email = (.error failure, audit)) :
      Ends c now s .post (.only failure.status, { s with audit })
  /-- A message was checked under the policy in force. -/
  | checked {o : Checker.Outcome} {peers : Http.Peers} {m : Mail.Message}
      (ho : o = c.check s.policy peers m) :
      Ends c now s .post (.value (outcomeJson o), s.remember c now o)
  /-- Another policy is in force. -/
  | policySet {p : Policy} (hp : isAcceptable p = true) :
      Ends c now s .put (.value p.toJson, { s with policy := p })
  /-- What was remembered of a message went into the row of its ticket. -/
  | opened {ticket : Ticket} {email mid : String} {r : Checker.Remembered} {row : Audit.Row}
      {audit : σ} (hticket : 0 < ticket) (hmid : (s.live c now).get? mid = some r)
      (hupsert : Audit.Repository.upsert s.audit now (Checker.State.findingOf r ticket email) =
        (.ok row, audit)) :
      Ends c now s .post (⟨200, .row row⟩,
        { s with audit, recent := (s.live c now).erase mid })
  /-- A ticket was marked. -/
  | marked {ticket : Ticket} {email : String} {row : Audit.Row} {audit : σ}
      (hmark : Audit.Repository.markSpam s.audit now ticket email = (.ok row, audit)) :
      Ends c now s .post (⟨200, .row row⟩, { s with audit })

/-- Whatever is written is answered with success, and nothing is written for a question. -/
theorem Ends.sameFor {c : Checker} {now : Instant} {s : Checker.State σ} {method : Method}
    {out : Response × Checker.State σ} {β : Type} {view : σ → β} (hview : Audit.Keeps view)
    (h : Ends c now s method out)
    (hidle : out.1.status ≠ 200 ∨ method = .get ∨ method = .head) : SameFor view out.2 s := by
  have hwrites : ∀ {method : Method} {answer : Response}, answer.status = 200 →
      method ≠ .get → method ≠ .head →
        ¬ (answer.status ≠ 200 ∨ method = .get ∨ method = .head) := by
    rintro method answer hstatus hget hhead (hne | hmethod | hmethod)
    · exact hne hstatus
    · exact hget hmethod
    · exact hhead hmethod
  cases h with
  | still => exact .refl view s
  | consulted _ _ haudit =>
    obtain rfl | ⟨ticket, rfl⟩ := haudit
    · exact ⟨rfl, rfl, hview.health s.audit⟩
    · exact ⟨rfl, rfl, hview.lookup s.audit ticket⟩
  | refused hfailed =>
    obtain ⟨f, hupsert⟩ | ⟨ticket, email, hmark⟩ := hfailed
    · exact ⟨rfl, rfl, hview.upsert hupsert⟩
    · exact ⟨rfl, rfl, hview.markSpam hmark⟩
  | checked => exact absurd hidle (hwrites rfl nofun nofun)
  | policySet => exact absurd hidle (hwrites rfl nofun nofun)
  | opened => exact absurd hidle (hwrites rfl nofun nofun)
  | marked => exact absurd hidle (hwrites rfl nofun nofun)

section Requests

variable (c : Checker) (peers : Http.Peers) (now : Instant) (s : Checker.State σ) (r : Request)

theorem createCheck_ends : Ends c now s .post (createCheck c peers now s r) := by
  unfold createCheck
  cases readBody (Json.Reader.members Json.maxDepth) r with
  | error status => exact .still _ _
  | ok vars =>
    cases hheader : (Mail.Message.ofVars vars).hasHeader with
    | false =>
      dsimp only
      rw [s.checkVars_of_no_header c now peers hheader]
      exact .still _ _
    | true =>
      dsimp only
      rw [s.checkVars_of_header c now peers hheader]
      exact .checked rfl

theorem updatePolicy_ends : Ends c now s .put (updatePolicy s r) := by
  unfold updatePolicy
  cases readBody Policy.record.read r with
  | error status => exact .still _ _
  | ok p =>
    dsimp only
    split
    · next hp => exact .policySet hp
    · exact .still _ _

theorem ticketCreated_ends (ticket : Ticket) :
    Ends c now s .post (ticketCreated c now s ticket r) := by
  unfold ticketCreated
  cases readBody Opening.record.read r with
  | error status => exact .still _ _
  | ok o =>
    dsimp only
    by_cases hticket : ticket ≤ 0
    · rw [s.ticketCreated_of_nonpos c now o.email o.mid hticket]
      exact .still _ _
    · have hpos := Int.not_le.1 hticket
      cases hmid : (s.live c now).get? o.mid with
      | none =>
        rw [s.ticketCreated_of_none c now o.email hpos hmid]
        exact .still _ _
      | some remembered =>
        rcases hupsert : Audit.Repository.upsert s.audit now
          (Checker.State.findingOf remembered ticket o.email) with ⟨_ | row, audit⟩
        · rw [s.ticketCreated_of_refused c now hpos hmid hupsert]
          exact .refused (.inl ⟨_, hupsert⟩)
        · rw [s.ticketCreated_of_accepted c now hpos hmid hupsert]
          exact .opened hpos hmid hupsert

theorem markTicket_ends (ticket : Ticket) :
    Ends c now s .post (markTicket now s ticket r) := by
  unfold markTicket
  cases readBody markRecord.read r with
  | error status => exact .still _ _
  | ok email =>
    simp only [Checker.State.markSpam]
    rcases hmark : Audit.Repository.markSpam s.audit now ticket email with ⟨_ | row, audit⟩
    · exact .refused (.inr ⟨ticket, email, hmark⟩)
    · exact .marked hmark

theorem onTicket_ends {method : Method} {order : Ticket → Response × Checker.State σ}
    (segment : List Char) (horder : ∀ ticket, Ends c now s method (order ticket)) :
    Ends c now s method (onTicket segment s order) := by
  unfold onTicket
  cases ticket? segment with
  | none => exact .still _ _
  | some ticket => exact horder ticket

theorem readiness_ends (method : Method) : Ends c now s method (readiness s) := by
  unfold readiness
  rcases hhealth : Audit.Repository.health s.audit with ⟨_ | _, audit⟩ <;>
    exact .consulted _ _ (.inl (congrArg Prod.snd hhealth.symm))

theorem consult_ends (method : Method) (resource : Resource) :
    Ends c now s method (consult s resource) := by
  cases resource with
  | readiness => exact readiness_ends c now s method
  | ticketSpam segment =>
    exact onTicket_ends c now s segment fun ticket => .consulted _ _ (.inr ⟨ticket, rfl⟩)
  | _ => exact .still _ _

/-- What is not sent along does not change how a question ends. -/
theorem consult_head_ends (resource : Resource) :
    Ends c now s .head ((consult s resource).1.withoutPayload, (consult s resource).2) := by
  have hends := consult_ends c now s .head resource
  generalize consult s resource = out at hends
  cases hends with
  | still => exact .still _ _
  | consulted _ _ haudit => exact .consulted _ _ haudit

/-- A request about a resource that understands its method. -/
theorem perform_ends {resource : Resource} (hallows : resource.allows r.method = true) :
    Ends c now s r.method (perform c peers now s r resource) := by
  obtain ⟨method, path, contentType, body⟩ := r
  cases method with
  | get => exact consult_ends c now s .get resource
  | head => exact consult_head_ends c now s resource
  | post =>
    cases resource with
    | checks => exact createCheck_ends c peers now s _
    | ticketCreated segment =>
      exact onTicket_ends c now s segment fun ticket => ticketCreated_ends c now s _ ticket
    | ticketSpam segment =>
      exact onTicket_ends c now s segment fun ticket => markTicket_ends c now s _ ticket
    | _ => cases hallows
  | put =>
    cases resource with
    | policy => exact updatePolicy_ends c now s _
    | _ => cases hallows
  | other => cases resource <;> cases hallows

theorem respond_ends : Ends c now s r.method (respond c peers now s r) := by
  unfold respond
  cases Resource.ofPath? r.path with
  | none => exact .still _ _
  | some resource =>
    dsimp only
    split
    · next hallows => exact perform_ends c peers now s r hallows
    · exact .still _ _

end Requests

end Calls

/-! ## Requests without a trace -/

/-- A call that was refused, or only asked. -/
def Idle (e : Entry Call Response) : Prop :=
  e.answer.status ≠ 200 ∨ e.asked.request.method = .get ∨ e.asked.request.method = .head

instance : DecidablePred Idle := fun _ => inferInstanceAs (Decidable (_ ∨ _))

/-- The calls of a history that were neither refused nor questions. -/
def effective (h : List (Entry Call Response)) : List (Entry Call Response) :=
  h.filter fun e => ¬ Idle e

section Runs

variable {σ β : Type} [Audit.Repository σ] (c : Checker) (s : Checker.State σ) {view : σ → β}
  (hview : Audit.Keeps view)

include hview

theorem serve_of_idle {now : Instant} {call : Call}
    (hidle : Idle ⟨now, call, (serve c s now call).1⟩) :
    SameFor view (serve c s now call).2 s :=
  (respond_ends c call.peers now s call.request).sameFor hview hidle

theorem stateAfter_of_idle {calls : List (Instant × Call)}
    (hidle : ∀ e ∈ transcript (serve c) s calls, Idle e) :
    SameFor view (stateAfter (serve c) s calls) s := by
  induction calls generalizing s with
  | nil => exact .refl view s
  | cons call calls ih =>
    obtain ⟨hfirst, hrest⟩ := List.forall_mem_cons.1 hidle
    exact (ih _ hrest).trans (serve_of_idle c s hview hfirst)

omit hview

/-- Where an audit store is left alone by questions and by writes that it refuses, a run without
its idle calls has the same other answers, and the same state behind it. -/
theorem effective_run (hid : Audit.Keeps (id : σ → σ)) (calls : List (Instant × Call)) :
    let kept := effective (transcript (serve c) s calls)
    transcript (serve c) s (kept.map fun e => (e.time, e.asked)) = kept ∧
      stateAfter (serve c) s (kept.map fun e => (e.time, e.asked)) =
        stateAfter (serve c) s calls := by
  refine transcript_filter (fun s now call hdropped => ?_) s calls
  have hidle : Idle ⟨now, call, (serve c s now call).1⟩ := by simpa using hdropped
  exact (serve_of_idle c s hid hidle).eq

end Runs

/-! ## Reports of tickets -/

deriving instance DecidableEq for Opening

/-- A request reports in due form that a ticket was opened for a message. -/
structure Reports (r : Request) (ticket : Ticket) (email mid : String) : Prop where
  method : r.method = .post
  path : ∃ segment, Resource.ofPath? r.path = some (.ticketCreated segment) ∧
    ticket? segment = some ticket
  body : readBody Opening.record.read r = .ok ⟨email, mid⟩
  positive : 0 < ticket

section Reporting

variable {σ : Type} [Audit.Repository σ] (c : Checker) (s : Checker.State σ) {ticket : Ticket}
  {email mid : String}

/-- A report in due form reaches the checker as it was meant. -/
theorem respond_of_reports (peers : Http.Peers) (now : Instant) {r : Request}
    (hreports : Reports r ticket email mid) :
    respond c peers now s r =
      let (answer, s) := s.ticketCreated c now ticket email mid
      (.ofRow answer, s) := by
  obtain ⟨hmethod, ⟨segment, hpath, hticket⟩, hbody, -⟩ := hreports
  have hallows : (Resource.ticketCreated segment).allows r.method = true := by
    rw [hmethod]
    rfl
  calc respond c peers now s r
      = perform c peers now s r (.ticketCreated segment) := by
        simp only [respond, hpath, hallows, if_true]
    _ = onTicket segment s fun ticket => ticketCreated c now s ticket r := by
        unfold perform
        rw [hmethod]
    _ = ticketCreated c now s ticket r := by
        rw [onTicket, hticket]
    _ = _ := by
        rw [ticketCreated, hbody]

/-- A report in due form takes over what waits for its ticket, if the audit store takes the row. -/
theorem serve_of_reports {later : Instant} {call : Call} {r : Checker.Remembered}
    {row : Audit.Row} {audit : σ} (hreports : Reports call.request ticket email mid)
    (hwaits : (s.live c later).get? mid = some r)
    (hupsert : Audit.Repository.upsert s.audit later (Checker.State.findingOf r ticket email) =
      (.ok row, audit)) :
    serve c s later call =
      (⟨200, .row row⟩, { s with audit, recent := (s.live c later).erase mid }) := by
  have hserve := respond_of_reports c s call.peers later hreports
  rw [s.ticketCreated_of_accepted c later hreports.positive hwaits hupsert] at hserve
  exact hserve

end Reporting

/-- In memory a report in due form always gets its row, which holds what was remembered. -/
theorem takesOver_of_reports (c : Checker) (s : Checker.State Audit.Store) {later : Instant}
    {call : Call} {ticket : Ticket} {email mid : String} {r : Checker.Remembered}
    (hreports : Reports call.request ticket email mid)
    (hwaits : (s.live c later).get? mid = some r) :
    ∃ row, (serve c s later call).1 = ⟨200, .row row⟩ ∧
      row.toFinding = Checker.State.findingOf r ticket email ∧
        (serve c s later call).2.audit.lookup ticket = some row := by
  rw [serve_of_reports c s hreports hwaits (s.audit.upsert_of_pos later hreports.positive)]
  exact ⟨_, rfl, rfl, (Ledger.get?_put _ _ _ _).trans (if_pos rfl)⟩

/-- Over every audit store that keeps its rows when it is asked and when it refuses a write, behind
every run, a call that is not answered with success and a call that only asks leave the policy,
what is remembered and all rows as they are.  However many of them there are after a check, a
ticket that is then reported in due form while the outcome still waits gets a row with the outcome
in it, if only the store takes one.  Where the store is left alone by such calls, as it is in
memory, the run without all of them gives the same other answers and ends in the same state. -/
theorem idle_calls_traceless {σ : Type} [Audit.Repository σ]
    {rows : σ → Ticket → Option Audit.Row} (hrows : Audit.Lawful rows) (c : Checker) (p : Policy)
    (audit : σ) (calls : List (Instant × Call)) :
    let h := transcript (serve c) (.over p audit) calls
    let s := stateAfter (serve c) (.over p audit) calls
    (∀ now call, Idle ⟨now, call, (serve c s now call).1⟩ →
        SameFor rows (serve c s now call).2 s) ∧
      (∀ more, (∀ e ∈ transcript (serve c) s more, Idle e) →
        let s' := stateAfter (serve c) s more
        SameFor rows s' s ∧
          ∀ later call ticket email mid r row taken, Reports call.request ticket email mid →
            (s.live c later).get? mid = some r →
              Audit.Repository.upsert s'.audit later (Checker.State.findingOf r ticket email) =
                (.ok row, taken) →
                serve c s' later call = (⟨200, .row row⟩,
                    { s' with audit := taken, recent := (s.live c later).erase mid }) ∧
                  row.Holds (Checker.State.findingOf r ticket email) ∧
                    rows taken ticket = some row) ∧
      (Audit.Keeps (id : σ → σ) →
        let kept := (effective h).map fun e => (e.time, e.asked)
        transcript (serve c) (.over p audit) kept = effective h ∧
          stateAfter (serve c) (.over p audit) kept = s) := by
  intro h s
  have hkeeps := hrows.toKeeps
  refine ⟨fun now call hidle => serve_of_idle c s hkeeps hidle, fun more hidle => ?_,
    fun hid => effective_run c _ hid calls⟩
  have hsame := stateAfter_of_idle c s hkeeps hidle
  refine ⟨hsame, fun later call ticket email mid r row taken hreports hwaits hupsert => ?_⟩
  have hlive : (stateAfter (serve c) s more).live c later = s.live c later :=
    congrArg (Ledger.keep fun e => c.isLive later e.2) hsame.recent
  have hserve := serve_of_reports c _ hreports (hlive ▸ hwaits) hupsert
  rw [hlive] at hserve
  obtain ⟨hholds, hrow⟩ := hrows.stored hupsert
  exact ⟨hserve, hholds, (hrow ticket).trans (if_pos rfl)⟩

/-- An order of a host that reaches no peers. -/
def orderOf (path body : String) (contentType : String) : Call :=
  ⟨.unreachable, .post, path, some contentType, Text.Utf8.encode body.toList⟩

/-- A message is checked. -/
def arrival : Call :=
  orderOf "/api/v1/checks"
    (Json.ofPairs [("header", .string "Subject: hi"), ("mid", .string "1@a.test")]).render
    "application/json"

/-- A ticket, by the segment of the path, was opened for a message. -/
def reportOf (segment mid : String) (contentType : String) : Call :=
  orderOf ("/api/v1/tickets/" ++ segment ++ "/created")
    (Json.ofPairs [("mid", .string mid)]).render contentType

/-- Reports that are refused, each for a reason of its own. -/
def stumbles : List Call := [
  reportOf "42" "1@a.test" "text/plain",
  reportOf "x" "1@a.test" "application/json",
  orderOf "/api/v1/tickets/42/created" "[" "application/json",
  orderOf "/api/v1/tickets/42/created" "[]" "application/json",
  reportOf "42" "2@a.test" "application/json",
  reportOf "0" "1@a.test" "application/json"]

/-- A question of a host that reaches no peers. -/
def questionOf (path : String) : Call := ⟨.unreachable, .get, path, none, []⟩

/-- A database server that is out of order for some statements more. -/
structure Outage where
  table : Audit.Store
  left : Nat

/-- Carries out a statement, unless the server is out of order. -/
def Outage.carryOut {α : Type} (s : Outage) (statement : Audit.Store → α × Audit.Store) :
    Except String α × Outage :=
  match s.left with
  | 0 =>
    let (answer, table) := statement s.table
    (.ok answer, ⟨table, 0⟩)
  | left + 1 => (.error "connection closed", ⟨s.table, left⟩)

instance : Audit.Server Outage where
  migrate s := s.carryOut fun table => ((), table)
  insert s now f := s.carryOut fun table =>
    let row := table.rowOf now f
    (row, table.put f.ticket row)
  flag s now ticket email := s.carryOut fun table =>
    let row := table.markedRow now ticket email
    (row, table.put ticket row)
  select s ticket := s.carryOut fun table => (table.lookup ticket, table)
  ping s := s.carryOut fun table => ((), table)

theorem Outage.table_of_error {α : Type} {s s' : Outage} {text : String}
    {statement : Audit.Store → α × Audit.Store}
    (hfailed : s.carryOut statement = (.error text, s')) : s'.table = s.table := by
  unfold carryOut at hfailed
  split at hfailed <;> cases hfailed
  rfl

theorem Outage.table_of_unchanged {α : Type} {s : Outage}
    {statement : Audit.Store → α × Audit.Store} (hsame : (statement s.table).2 = s.table) :
    (s.carryOut statement).2.table = s.table := by
  unfold carryOut
  split
  · exact hsame
  · rfl

theorem lawful_outage : Audit.Server.Lawful fun s : Outage => s.table.lookup where
  select s ticket := congrArg Audit.Store.lookup (s.table_of_unchanged rfl)
  ping s := congrArg Audit.Store.lookup (s.table_of_unchanged rfl)
  insert_error hfailed := congrArg Audit.Store.lookup (Outage.table_of_error hfailed)
  flag_error hfailed := congrArg Audit.Store.lookup (Outage.table_of_error hfailed)
  insert_ok {s s' now f row} htaken := by
    simp only [Audit.Server.insert, Outage.carryOut] at htaken
    split at htaken <;> cases htaken
    exact ⟨(s.table.rowOf now f).holds_toFinding, fun ticket => Ledger.get?_put _ _ _ _⟩

/-- How many statements more will fail, where rows are on a server. -/
def failuresLeft? : Audit.Backend Outage → Option Nat
  | .memory _ => none
  | .database s => some s.left

/-- A server that is back in order takes a row for a ticket that there is. -/
theorem exists_upsert_of_failuresLeft {b : Audit.Backend Outage}
    (hleft : failuresLeft? b = some 0) (now : Instant) {f : Audit.Finding} (hf : 0 < f.ticket) :
    ∃ row taken, Audit.Repository.upsert b now f = (.ok row, taken) := by
  obtain s | ⟨table, left⟩ := b
  · cases hleft
  · obtain rfl : left = 0 := Option.some.inj hleft
    have hticket : ¬ f.ticket ≤ 0 := Int.not_le.2 hf
    have hwrite : Audit.Repository.upsert (Audit.Backend.database ⟨table, 0⟩ : Audit.Backend Outage)
        now f = (.ok (table.rowOf now f), .database ⟨table.put f.ticket (table.rowOf now f), 0⟩) :=
      if_neg hticket
    exact ⟨_, _, hwrite⟩

/-- After refusals of every kind, some of them because the server of the audit store is out of
order, the ticket still gets its row. -/
theorem idle_calls_traceless_stumbles :
    let p := { Policy.default with spfFailAction := .spam }
    let audit : Audit.Backend Outage := .database ⟨.empty, 3⟩
    let s := stateAfter (serve sentry) (.over p audit) [(0, arrival)]
    let report := reportOf "42" "1@a.test" "application/json"
    let failing := [report, questionOf "/health/ready", questionOf "/api/v1/tickets/42/spam"]
    let more := (stumbles ++ failing).map fun call => (1, call)
    (transcript (serve sentry) s more).map (·.answer.status) =
        [415, 400, 400, 422, 404, 422, 500, 503, 500] ∧
      (∀ e ∈ transcript (serve sentry) s more, Idle e) ∧
      Reports report.request 42 "" "1@a.test" ∧
      ∃ row, (serve sentry (stateAfter (serve sentry) s more) 2 report).1 =
          ⟨200, .row row⟩ ∧ row.isSpam = true := by
  intro p audit s report failing more
  have hstatuses : (transcript (serve sentry) s more).map (·.answer.status) =
      [415, 400, 400, 422, 404, 422, 500, 503, 500] := by decide +kernel
  have hrefused : ∀ status ∈ [415, 400, 400, 422, 404, 422, 500, 503, 500], status ≠ 200 := by
    decide
  have hidle : ∀ e ∈ transcript (serve sentry) s more, Idle e := fun e he =>
    .inl (hrefused _ (hstatuses ▸ List.mem_map_of_mem he))
  have hreports : Reports report.request 42 "" "1@a.test" := by
    refine ⟨rfl, ⟨"42".toList, ?_, ?_⟩, ?_, ?_⟩ <;> decide +kernel
  have hblocked : ((s.live sentry 2).get? "1@a.test").map (·.decision.wouldBlock) =
      some true := by decide +kernel
  have hleft : failuresLeft? (stateAfter (serve sentry) s more).audit = some 0 := by
    decide +kernel
  obtain ⟨r, hwaits, hspam⟩ := Option.map_eq_some_iff.1 hblocked
  obtain ⟨row, taken, hupsert⟩ := exists_upsert_of_failuresLeft hleft 2
    (f := Checker.State.findingOf r 42 "") hreports.positive
  obtain ⟨-, htraceless, -⟩ :=
    idle_calls_traceless (Audit.lawful_backend lawful_outage) sentry p audit [(0, arrival)]
  obtain ⟨-, hagain⟩ := htraceless more hidle
  obtain ⟨hserve, hholds, -⟩ := hagain 2 report 42 "" "1@a.test" r row taken hreports hwaits hupsert
  refine ⟨hstatuses, hidle, hreports, row, congrArg Prod.fst hserve, ?_⟩
  exact hholds.isSpam.trans hspam

end SpamVerdict.Service
