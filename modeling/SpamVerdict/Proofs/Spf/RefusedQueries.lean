import SpamVerdict.Dns.Live
import SpamVerdict.Proofs.Spf.Rules
set_option autoImplicit false

/-!
# Replies without records (SPEC_FULL §4.2, §11)

A reply without records says by its code why it has none.  The resolver keeps one code apart, that
of a server failure; it takes every other reply without records for the absence of records, that
of a server which refuses the query as well (`empty_answer_iff`).  So a domain whose text records
a server refuses to give has no policy in the eyes of the evaluation, whose result is `none` and
not the error that a server failure makes of it (`answerless_reply`).

SPEC_FULL §11 counts "no records" and a name that does not exist as empty answers, and §4.2 wants
failures kept apart from them.  The statement goes through all codes.
-/

namespace SpamVerdict.Dns

/-! ## Queries of every type -/

/-- The code of a reply that refuses the query. -/
def ResponseCode.refused : ResponseCode := 5

/-- A name that servers are asked about: it is well-formed and not set aside for special use. -/
def Asked (name : String) : Prop :=
  ∃ labels, labels? name = some labels ∧ specialUse? labels = none

namespace Exchange

variable {α β : Type}

/-- The exchange with other records made of its own. -/
def mapRecords (f : List α → List β) : Exchange α → Exchange β
  | answered records => answered (f records)
  | withoutRecords code => withoutRecords code
  | timedOut => timedOut
  | failed text => failed text

theorem settle_mapRecords {f : List α → List β} (hf : f [] = []) (x : Exchange α) :
    (x.mapRecords f).settle = x.settle.map f := by
  cases x with
  | withoutRecords code =>
    unfold mapRecords settle
    dsimp only
    split
    · rfl
    · rw [Except.map, hf]
  | _ => rfl

theorem settle_eq_nil_iff {x : Exchange α} :
    x.settle = .ok [] ↔
      x = .answered [] ∨ ∃ code, x = .withoutRecords code ∧ code ≠ .serverFailure := by
  cases x <;> simp [settle]

end Exchange

/-- One mark for each record. -/
def marks {α : Type} (records : List α) : List Unit := records.map fun _ => ()

theorem marks_map {α β : Type} (f : α → β) (records : List α) :
    marks (records.map f) = marks records := by
  rw [marks, List.map_map]
  rfl

/-- The reply to a query of any type, with a mark for each record that the resolver keeps. -/
def Exchanges.reply (e : Exchanges) : Query → Exchange Unit
  | .txt name => (e.txt name).mapRecords marks
  | .address family name => (e.address family name).mapRecords marks
  | .mx name => (e.mx name).mapRecords fun hosts =>
    marks ((hosts.map Text.trimDots).filter (!·.isEmpty))

/-- The answer to a query of any type, with a mark for each record. -/
def Resolver.answer (r : Resolver) : Query → Except Fault (List Unit)
  | .txt name => (r.txt name).map marks
  | .address family name => (r.address family name).map marks
  | .mx name => (r.mx name).map marks

/-- The records of a query about the loopback name. -/
def Query.loopback : Query → List Unit
  | .address _ _ => [()]
  | _ => []

/-- The name of a query is set aside for special use, and so is the empty answer to it. -/
def Query.Reserved (q : Query) : Prop :=
  ∃ labels, labels? q.name = some labels ∧
    (specialUse? labels = some .nonexistent ∨
      specialUse? labels = some .loopback ∧ q.loopback = [])

/-! ## Answers without records -/

theorem settleName_mapRecords {α β : Type} {f : List α → List β} (hf : f [] = []) (name : String)
    (loopback : List α) (x : Exchange α) :
    settleName name (f loopback) (x.mapRecords f) = (settleName name loopback x).map f := by
  unfold settleName
  split
  · rfl
  · split
    · rfl
    · exact congrArg Except.ok hf.symm
    · exact Exchange.settle_mapRecords hf x

theorem settleName_of_asked {α : Type} {name : String} (hname : Asked name) (loopback : List α)
    (x : Exchange α) : settleName name loopback x = x.settle := by
  obtain ⟨labels, hlabels, huse⟩ := hname
  simp only [settleName, hlabels, huse]

section Answers

variable (e : Exchanges) (q : Query)

/-- Queries of all types are settled in one way. -/
theorem answer_eq : e.resolver.answer q = settleName q.name q.loopback (e.reply q) := by
  cases q with
  | txt name =>
    have hsettled := settleName_mapRecords (f := marks) rfl name [] (e.txt name)
    refine Eq.trans ?_ hsettled.symm
    show ((settleName name [] (e.txt name)).map _).map marks = _
    cases settleName name [] (e.txt name) with
    | error fault => rfl
    | ok records => exact congrArg Except.ok (marks_map textOfParts records)
  | address family name =>
    exact (settleName_mapRecords (f := marks) rfl name [loopbackOf family] _).symm
  | mx name =>
    have hsettled := settleName_mapRecords (f := fun hosts =>
      marks ((hosts.map Text.trimDots).filter (!·.isEmpty))) rfl name [] (e.mx name)
    refine Eq.trans ?_ hsettled.symm
    show ((settleName name [] (e.mx name)).map _).map marks = _
    cases settleName name [] (e.mx name) <;> rfl

/-- The answer to a query is empty if its name is set aside so, or if it is asked about and the
reply either has nothing to keep or has no records and another code than a server failure. -/
theorem empty_answer_iff :
    e.resolver.answer q = .ok [] ↔ q.Reserved ∨ Asked q.name ∧
      (e.reply q = .answered [] ∨
        ∃ code, e.reply q = .withoutRecords code ∧ code ≠ .serverFailure) := by
  rw [answer_eq, ← Exchange.settle_eq_nil_iff, settleName, Query.Reserved, Asked]
  cases hlabels : labels? q.name with
  | none => simp
  | some labels =>
    cases huse : specialUse? labels with
    | none => simp [huse]
    | some use =>
      cases use with
      | loopback => simp [huse]
      | nonexistent => simp [huse, Exchange.settle, ResponseCode.nonexistent,
          ResponseCode.serverFailure]

variable {e q}

theorem answer_of_withoutRecords {code : ResponseCode} (hname : Asked q.name)
    (hreply : e.reply q = .withoutRecords code) :
    e.resolver.answer q = if code = .serverFailure then .error .serverFailure else .ok [] := by
  rw [answer_eq, settleName_of_asked hname, hreply, Exchange.settle]

theorem txt_of_withoutRecords {name : String} {code : ResponseCode} (hname : Asked name)
    (hreply : e.txt name = .withoutRecords code) :
    e.resolver.txt name = if code = .serverFailure then .error .serverFailure else .ok [] := by
  show (settleName name [] (e.txt name)).map _ = _
  rw [settleName_of_asked hname, hreply, Exchange.settle]
  split <;> rfl

end Answers

end SpamVerdict.Dns

namespace SpamVerdict.Spf

/-! ## Evaluations -/

/-- A domain whose text records are not given has no policy, unless a server failure is reported:
that alone is an error. -/
theorem checkDomain_of_withoutRecords {e : Dns.Exchanges} {domain : String}
    {code : Dns.ResponseCode} (hname : Dns.Asked domain)
    (hreply : e.txt domain = .withoutRecords code) (ip : Ip.Address) (levels : Nat) :
    (checkDomain e.resolver ip (levels + 1) domain).1 =
      if code = .serverFailure then
        .faulty domain .tempError none (.lookupFailed .serverFailure)
      else .plain domain .none none := by
  have htxt := Dns.txt_of_withoutRecords hname hreply
  split
  · next hcode => exact checkDomain_of_error (by rw [htxt, if_pos hcode])
  · next hcode => exact checkDomain_of_none (by rw [htxt, if_neg hcode]) rfl

/-- A query of any type has the empty answer if its name is set aside so, or if the reply has
nothing to keep or no records and any code but that of a server failure.  A reply without records
is an error for that one code, and so is the evaluation of the domain whose text records were
asked for, at any depth; with any other code the domain has no policy. -/
theorem answerless_reply (e : Dns.Exchanges) (ip : Ip.Address) :
    (∀ q, e.resolver.answer q = .ok [] ↔ q.Reserved ∨ Dns.Asked q.name ∧
        (e.reply q = .answered [] ∨
          ∃ code, e.reply q = .withoutRecords code ∧ code ≠ .serverFailure)) ∧
      (∀ q code, Dns.Asked q.name → e.reply q = .withoutRecords code →
        e.resolver.answer q =
          if code = .serverFailure then .error .serverFailure else .ok []) ∧
      ∀ levels domain code, Dns.Asked domain → e.txt domain = .withoutRecords code →
        (checkDomain e.resolver ip (levels + 1) domain).1 =
          if code = .serverFailure then
            .faulty domain .tempError none (.lookupFailed .serverFailure)
          else .plain domain .none none :=
  ⟨Dns.empty_answer_iff e, fun _ _ => Dns.answer_of_withoutRecords,
    fun levels _ _ hname hreply => checkDomain_of_withoutRecords hname hreply ip levels⟩

/-- Servers that fail for one name and refuse every other query. -/
def guardedServers : Dns.Exchanges where
  txt name := .withoutRecords (if name = "_failing" then .serverFailure else .refused)
  address _ _ := .withoutRecords .refused
  mx _ := .withoutRecords .refused

theorem asked_failing : Dns.Asked "_failing" :=
  ⟨["_failing".toList], by decide, by decide⟩

theorem asked_refused : Dns.Asked "_refused" :=
  ⟨["_refused".toList], by decide, by decide⟩

theorem normalizeDomain_failing : normalizeDomain "_failing" = "_failing" := by
  decide

theorem normalizeDomain_refused : normalizeDomain "_refused" = "_refused" := by
  decide

/-- A failing server makes an error of the evaluation, a refusing one the absence of a policy. -/
theorem answerless_reply_guardedServers :
    let ip := Ip.Address.v4 ⟨192, 0, 2, 1⟩
    guardedServers.resolver.answer (.mx "_refused") = .ok [] ∧
      (evaluate guardedServers.resolver "_failing" ip).verdict.raw = .tempError ∧
      (evaluate guardedServers.resolver "_refused" ip).verdict.raw = .none := by
  intro ip
  obtain ⟨-, hanswer, hdomain⟩ := answerless_reply guardedServers ip
  have hfailing := hdomain 7 "_failing" .serverFailure asked_failing rfl
  have hrefused := hdomain 7 "_refused" .refused asked_refused rfl
  refine ⟨hanswer (.mx "_refused") .refused asked_refused rfl, ?_, ?_⟩
  · rw [evaluate_eq, normalizeDomain_failing]
    exact congrArg Verdict.raw hfailing
  · rw [evaluate_eq, normalizeDomain_refused]
    exact congrArg Verdict.raw hrefused

/-- A refused query is answered as if there were no records, though its code is neither that of a
reply without error nor that of a missing name; and the domain is taken to have no policy. -/
theorem refused_taken_for_absent :
    ¬ (∀ (e : Dns.Exchanges) (q : Dns.Query) (code : Dns.ResponseCode),
        Dns.Asked q.name → e.reply q = .withoutRecords code → e.resolver.answer q = .ok [] →
        code = .noError ∨ code = .nonexistent) ∧
      (evaluate guardedServers.resolver "_refused" (.v4 ⟨192, 0, 2, 1⟩)).verdict.raw = .none := by
  have hreply : guardedServers.reply (.txt "_refused") = .withoutRecords .refused := rfl
  have hanswer : guardedServers.resolver.answer (.txt "_refused") = .ok [] :=
    Dns.answer_of_withoutRecords (q := .txt "_refused") asked_refused hreply
  have hrefused := checkDomain_of_withoutRecords (e := guardedServers) asked_refused rfl
    (.v4 ⟨192, 0, 2, 1⟩) 7
  refine ⟨fun h => ?_, ?_⟩
  · exact absurd (h guardedServers (.txt "_refused") .refused asked_refused hreply hanswer)
      (by decide)
  · rw [evaluate_eq, normalizeDomain_refused]
    exact congrArg Verdict.raw hrefused

end SpamVerdict.Spf
