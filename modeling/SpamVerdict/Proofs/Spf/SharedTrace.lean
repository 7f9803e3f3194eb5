import SpamVerdict.Proofs.Spf.Scan
set_option autoImplicit false

/-!
# One trace for all levels (SPEC_FULL §3, §4.3)

The evaluation returns a log with every step, and puts the log of a nested step into the one around
it.  `Tracing` is the same evaluation with one list of lines that all levels append to.  The two
agree wherever the list starts (`Tracing.writes_checkDomain`): what a level appends is the trace of
its own step, whatever stands in the list before.

SPEC_FULL §3 allows both, "a shared mutable accumulator passed down (or equivalently threaded
through return values)"; this module is the proof of the word "equivalently".
-/

namespace SpamVerdict.Spf

/-! ## Lines of a log -/

namespace Log

theorem trace_nil : trace [] = [] := rfl

theorem trace_append (log rest : Log) : trace (log ++ rest) = trace log ++ trace rest :=
  List.filterMap_append

end Log

/-- A computation that appends lines to a list. -/
abbrev Tracing (α : Type) := StateM (List String) α

namespace Tracing

/-- Appends a line. -/
def note (line : String) : Tracing Unit := modify (· ++ [line])

/-! ## The evaluation over one list -/

section Evaluation

variable (dns : Dns.Resolver) (ip : Ip.Address)

/-- Whether an address of `target` is the sending address. -/
def addressMatches (domain target : String) : Tracing Bool := do
  if target.isEmpty then
    note ("domain=" ++ domain ++ " a=(empty) match=false")
    return false
  else
    match dns.address ip.family target with
    | .error fault =>
      note ("domain=" ++ domain ++ " a=" ++ target ++ " error=" ++ fault.message)
      return false
    | .ok addresses =>
      let found := addresses.contains ip
      note ("domain=" ++ domain ++ " a=" ++ target ++ " addresses=" ++
        ",".intercalate (addresses.map (·.print)) ++ " match=" ++ truth found)
      return found

/-- Tries hosts in turn until one has the sending address. -/
def hostsMatch (domain : String) : List String → Tracing Bool
  | [] => return false
  | host :: hosts => do
    if (Text.trimDots host).isEmpty then hostsMatch domain hosts
    else if ← addressMatches dns ip domain (Text.trimDots host) then return true
    else hostsMatch domain hosts

/-- Whether a mail exchanger of `target` has the sending address. -/
def mxMatches (domain target : String) : Tracing Bool := do
  if target.isEmpty then
    note ("domain=" ++ domain ++ " mx=(empty) match=false")
    return false
  else
    match dns.mx target with
    | .error fault =>
      note ("domain=" ++ domain ++ " mx=" ++ target ++ " error=" ++ fault.message)
      return false
    | .ok hosts =>
      note ("domain=" ++ domain ++ " mx=" ++ target ++ " hosts=" ++ ",".intercalate hosts)
      hostsMatch dns ip domain hosts

variable (visit : String → Tracing Verdict)

/-- Tries a mechanism on the sending address. -/
def tryMechanism (domain record : String) : Mechanism → Tracing Trial
  | .all => return .tested true
  | .ip4 block => return .tested (ip.inBlock block)
  | .ip6 block => return .tested (ip.inBlock block)
  | .includes target => do
    if target.isEmpty then
      return .settled (.faulty domain .permError (some record) .emptyInclude)
    else
      note ("domain=" ++ domain ++ " include=" ++ target)
      let v ← visit target
      if v.hitLimit then
        return .settled (.faulty domain .permError (some record) .recursionLimit)
      else return .tested (v.raw = .pass)
  | .a target => do return .tested (← addressMatches dns ip domain (target.getD domain))
  | .mx target => do return .tested (← mxMatches dns ip domain (target.getD domain))

/-- What a record says when no term of it matches. -/
def fallThrough (domain record : String) : Option String → Tracing Verdict
  | none => return .plain domain .neutral (some record)
  | some target => do
    if target.isEmpty then return .faulty domain .permError (some record) .emptyRedirect
    else
      note ("domain=" ++ domain ++ " redirect=" ++ target)
      let v ← visit target
      return { v with redirectChain := target :: v.redirectChain }

/-- Tries the tokens of a record in order. -/
def scan (domain record : String) : Option String → List (List Char) → Tracing Verdict
  | redirect, [] => fallThrough visit domain record redirect
  | redirect, token :: tokens => do
    match Term.ofChars token with
    | .redirect target => scan domain record (some target) tokens
    | .unsupported term =>
      note ("domain=" ++ domain ++ " unsupported_mechanism=" ++ term)
      return .faulty domain .permError (some record) (.unsupported term)
    | .directive qualifier mechanism =>
      match ← tryMechanism dns ip visit domain record mechanism with
      | .settled v => return v
      | .tested true =>
        note (matchedLine domain token qualifier)
        return .plain domain qualifier.result (some record)
      | .tested false => scan domain record redirect tokens

/-- Evaluates a record as if `domain` published it. -/
def checkRecord (domain record : String) : Tracing Verdict :=
  let cs := Text.trimOf Text.isBlank record.toList
  let record := String.ofList cs
  if isRecord cs then scan dns ip visit domain record none (tokensOf cs)
  else return .faulty domain .permError (some record) .notARecord

/-- Evaluates the policy of a domain with `levels` levels left. -/
def checkDomain : Nat → String → Tracing Verdict
  | 0, domain => do
    note ("domain=" ++ domain ++ " depth=" ++ toString maxDepth ++ " error=" ++
      Fault.recursionLimit.message)
    return .faulty domain .permError none .recursionLimit
  | levels + 1, domain => do
    let start := "domain=" ++ domain ++ " spf_record="
    match dns.txt domain with
    | .error fault =>
      let fault := Fault.lookupFailed fault
      note (start ++ "(none) raw=temperror result=invalid error=" ++ fault.message)
      return .faulty domain .tempError none fault
    | .ok texts =>
      match recordsAmong texts with
      | [] =>
        note (start ++ "(none) raw=none result=none")
        return .plain domain .none none
      | [record] =>
        note (start ++ record)
        let v ← checkRecord dns ip (checkDomain levels) domain record
        note (summary v)
        return v
      | _ =>
        note (start ++ "(multiple) raw=permerror result=invalid error=" ++
          Fault.severalRecords.message)
        return .faulty domain .permError none .severalRecords

end Evaluation

/-! ## What a computation appends -/

/-- The computation gives a value and appends the lines of a log, whatever the list holds. -/
def Writes {α : Type} (m : Tracing α) (result : α × Log) : Prop :=
  ∀ lines, m.run lines = (result.1, lines ++ result.2.trace)

section Writes

variable {α β : Type}

theorem writes_pure (x : α) : Writes (pure x) (x, []) := by
  intro lines
  rw [Log.trace_nil, List.append_nil]
  rfl

theorem writes_note (line : String) : Writes (note line) ((), [.noted line]) := by
  intro lines
  rfl

theorem Writes.bind {m : Tracing α} {f : α → Tracing β} {x : α} {y : β} {log rest : Log}
    (hm : Writes m (x, log)) (hf : Writes (f x) (y, rest)) :
    Writes (m >>= f) (y, log ++ rest) := by
  intro lines
  have hrun : (m >>= f).run lines = (f (m.run lines).1).run (m.run lines).2 := rfl
  rw [hrun, hm lines]
  dsimp only
  rw [hf, Log.trace_append, List.append_assoc]

/-- Nothing is appended after the first computation. -/
theorem Writes.bind_pure {m : Tracing α} {f : α → Tracing β} {x : α} {y : β} {log : Log}
    (hm : Writes m (x, log)) (hf : Writes (f x) (y, [])) : Writes (m >>= f) (y, log) := by
  have hbind := hm.bind hf
  rwa [List.append_nil] at hbind

/-- A line is appended before the rest. -/
theorem Writes.noted {m : Tracing α} {x : α} {log : Log} (hm : Writes m (x, log))
    (line : String) : Writes (do note line; m) (x, .noted line :: log) :=
  (writes_note line).bind hm

/-- A query appends no line. -/
theorem Writes.asked {m : Tracing α} {x : α} {log : Log} (hm : Writes m (x, log))
    (query : Dns.Query) : Writes m (x, .asked query :: log) :=
  hm

end Writes

/-! ## Both evaluations -/

section Agreement

variable (dns : Dns.Resolver) (ip : Ip.Address) (domain : String)

theorem writes_addressMatches (target : String) :
    Writes (addressMatches dns ip domain target) (Spf.addressMatches dns ip domain target) := by
  unfold addressMatches Spf.addressMatches
  split
  · exact (writes_pure false).noted _
  · cases dns.address ip.family target with
    | error fault => exact ((writes_pure false).noted _).asked _
    | ok addresses => exact ((writes_pure _).noted _).asked _

theorem writes_hostsMatch (hosts : List String) :
    Writes (hostsMatch dns ip domain hosts) (Spf.hostsMatch dns ip domain hosts) := by
  induction hosts with
  | nil => exact writes_pure false
  | cons host hosts ih =>
    have hhost := writes_addressMatches dns ip domain (Text.trimDots host)
    unfold hostsMatch Spf.hostsMatch
    dsimp only
    split
    · exact ih
    · cases hfound : Spf.addressMatches dns ip domain (Text.trimDots host) with
      | mk found log =>
        rw [hfound] at hhost
        cases found with
        | true => exact hhost.bind_pure (writes_pure true)
        | false => exact hhost.bind ih

theorem writes_mxMatches (target : String) :
    Writes (mxMatches dns ip domain target) (Spf.mxMatches dns ip domain target) := by
  unfold mxMatches Spf.mxMatches
  split
  · exact (writes_pure false).noted _
  · cases dns.mx target with
    | error fault => exact ((writes_pure false).noted _).asked _
    | ok hosts => exact ((writes_hostsMatch dns ip domain hosts).noted _).asked _

variable {visit : String → Tracing Verdict} {step : String → Step}
  (hvisit : ∀ target, Writes (visit target) (step target))

include hvisit

theorem writes_tryMechanism (record : String) (m : Mechanism) :
    Writes (tryMechanism dns ip visit domain record m)
      (Spf.tryMechanism dns ip step domain record m) := by
  cases m with
  | all => exact writes_pure _
  | ip4 block => exact writes_pure _
  | ip6 block => exact writes_pure _
  | includes target =>
    have htarget := hvisit target
    unfold tryMechanism Spf.tryMechanism
    dsimp only
    split
    · exact writes_pure _
    · cases hstep : step target with
      | mk v log =>
        rw [hstep] at htarget
        dsimp only
        split
        · next hlimit =>
          refine (htarget.bind_pure ?_).noted _
          rw [if_pos hlimit]
          exact writes_pure _
        · next hlimit =>
          refine (htarget.bind_pure ?_).noted _
          rw [if_neg hlimit]
          exact writes_pure _
  | a target => exact (writes_addressMatches dns ip domain _).bind_pure (writes_pure _)
  | mx target => exact (writes_mxMatches dns ip domain _).bind_pure (writes_pure _)

theorem writes_fallThrough (record : String) (redirect : Option String) :
    Writes (fallThrough visit domain record redirect)
      (Spf.fallThrough step domain record redirect) := by
  cases redirect with
  | none => exact writes_pure _
  | some target =>
    have htarget := hvisit target
    unfold fallThrough Spf.fallThrough
    dsimp only
    split
    · exact writes_pure _
    · refine (htarget.bind_pure ?_).noted _
      exact writes_pure _

theorem writes_scan (record : String) (redirect : Option String) (tokens : List (List Char)) :
    Writes (scan dns ip visit domain record redirect tokens)
      (Spf.scan dns ip step domain record redirect tokens) := by
  induction tokens generalizing redirect with
  | nil => exact writes_fallThrough domain hvisit record redirect
  | cons token tokens ih =>
    unfold scan Spf.scan attempt
    cases hterm : Term.ofChars token with
    | redirect target => exact ih (some target)
    | unsupported term => exact (writes_pure _).noted _
    | directive q m =>
      have hm := writes_tryMechanism dns ip domain hvisit record m
      dsimp only
      cases htried : Spf.tryMechanism dns ip step domain record m with
      | mk trial log =>
        rw [htried] at hm
        rcases trial with v | _ | _
        · exact hm.bind_pure (writes_pure v)
        · exact hm.bind (ih redirect)
        · exact hm.bind ((writes_pure _).noted _)

theorem writes_checkRecord (record : String) :
    Writes (checkRecord dns ip visit domain record)
      (Spf.checkRecord dns ip step domain record) := by
  unfold checkRecord Spf.checkRecord
  dsimp only
  split
  · exact writes_scan dns ip domain hvisit _ none _
  · exact writes_pure _

end Agreement

/-- The evaluation that all levels write one list in is the one that returns its log. -/
theorem writes_checkDomain (dns : Dns.Resolver) (ip : Ip.Address) (levels : Nat)
    (domain : String) :
    Writes (checkDomain dns ip levels domain) (Spf.checkDomain dns ip levels domain) := by
  induction levels generalizing domain with
  | zero => exact (writes_pure _).noted _
  | succ levels ih =>
    unfold checkDomain Spf.checkDomain
    dsimp only
    cases dns.txt domain with
    | error fault =>
      dsimp only
      exact ((writes_pure _).noted _).asked _
    | ok texts =>
      dsimp only
      rcases recordsAmong texts with _ | ⟨record, _ | ⟨second, records⟩⟩ <;> dsimp only
      · exact ((writes_pure _).noted _).asked _
      · have hrecord := writes_checkRecord dns ip domain ih record
        exact ((hrecord.bind ((writes_pure _).noted _)).noted _).asked _
      · exact ((writes_pure _).noted _).asked _

end Tracing

end SpamVerdict.Spf
