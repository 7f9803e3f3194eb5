import SpamVerdict.Spf.Term
import SpamVerdict.Ip.Block
import SpamVerdict.Dns.Resolver
set_option autoImplicit false

/-!
# Evaluation of SPF policies (SPEC_FULL §4.3, §14.11)

The policy of a domain is looked up and its terms are tried in order until one decides.  An
`include` and a `redirect` lead to the policy of another domain, one level deeper; at most
`maxDepth` levels are entered.

A step of the evaluation returns its verdict together with a log, in which the queries to the name
servers and the trace lines stand in the order in which they happen.  So the trace and the queries
of an evaluation are two views of one list, and the log of a nested evaluation stands in one piece
inside the log around it.

`checkDomain` and `checkRecord` are the two procedures of SPEC_FULL §4.3, step for step.  The depth
is counted downwards, as the number of levels that are left, so that the recursion is structural.
By §14.11 the limit is an error of every record above; any other result of an `include` but a pass
is no match.  A neutral result counts as a pass in the outcome but not as a match of an `include`,
which is the simplification that §9 wants kept.
-/

namespace SpamVerdict.Spf

/-! ## Verdicts -/

/-- Why an evaluation ends in an error. -/
inductive Fault where
  | lookupFailed (fault : Dns.Fault)
  | severalRecords
  | notARecord
  | unsupported (term : String)
  | emptyInclude
  | emptyRedirect
  | recursionLimit
  deriving DecidableEq, Repr

/-- The text of a fault. -/
def Fault.message : Fault → String
  | lookupFailed fault => "DNS TXT lookup failed: " ++ fault.message
  | severalRecords => "Multiple SPF records found"
  | notARecord => "Invalid SPF record"
  | unsupported term => "Unsupported SPF mechanism: " ++ term
  | emptyInclude => "Invalid include mechanism"
  | emptyRedirect => "Invalid redirect modifier"
  | recursionLimit => "SPF recursion limit exceeded"

/-- The verdict on a domain. -/
structure Verdict where
  /-- The domain that the verdict comes from. -/
  domain : String
  raw : Result
  /-- The record that gave the verdict. -/
  record : Option String
  /-- The domains entered by redirects, in order. -/
  redirectChain : List String
  fault : Option Fault
  deriving DecidableEq, Repr

namespace Verdict

/-- A verdict without a fault. -/
def plain (domain : String) (raw : Result) (record : Option String) : Verdict :=
  ⟨domain, raw, record, [], none⟩

/-- A verdict that reports a fault. -/
def faulty (domain : String) (raw : Result) (record : Option String) (fault : Fault) : Verdict :=
  ⟨domain, raw, record, [], some fault⟩

/-- The recursion limit was reached on the way to the verdict. -/
def hitLimit (v : Verdict) : Bool := v.fault == some .recursionLimit

end Verdict

/-! ## Logs -/

/-- The number of levels of `include` and `redirect` that are entered. -/
def maxDepth : Nat := 8

/-- What happens during an evaluation. -/
inductive Event where
  /-- A query to the name servers. -/
  | asked (query : Dns.Query)
  /-- A trace line. -/
  | noted (line : String)
  /-- The recursion limit is reached: a domain is entered with no level left for it. -/
  | stopped (domain : String)
  deriving DecidableEq, Repr

/-- The query of an event. -/
def Event.query? : Event → Option Dns.Query
  | asked query => some query
  | noted _ => none
  | stopped _ => none

/-- The trace line of an event. -/
def Event.line? : Event → Option String
  | asked _ => none
  | noted line => some line
  | stopped domain =>
    some ("domain=" ++ domain ++ " depth=" ++ toString maxDepth ++ " error=" ++
      Fault.recursionLimit.message)

/-- What happened, in order. -/
abbrev Log := List Event

namespace Log

/-- The trace lines of a log. -/
def trace (log : Log) : List String := log.filterMap Event.line?

/-- The queries of a log. -/
def queries (log : Log) : List Dns.Query := log.filterMap Event.query?

@[simp] theorem queries_nil : queries [] = [] := rfl

@[simp] theorem queries_asked (query : Dns.Query) (log : Log) :
    queries (.asked query :: log) = query :: queries log := rfl

@[simp] theorem queries_noted (line : String) (log : Log) :
    queries (.noted line :: log) = queries log := rfl

@[simp] theorem queries_stopped (domain : String) (log : Log) :
    queries (.stopped domain :: log) = queries log := rfl

@[simp] theorem queries_append (log rest : Log) :
    queries (log ++ rest) = queries log ++ queries rest :=
  List.filterMap_append

end Log

/-! ## Addresses and exchangers -/

/-- The text of a truth value. -/
def truth (b : Bool) : String := if b then "true" else "false"

/-- Whether an address of `target` is the sending address.  A failed look-up matches nothing. -/
def addressMatches (dns : Dns.Resolver) (ip : Ip.Address) (domain target : String) : Bool × Log :=
  if target.isEmpty then (false, [.noted ("domain=" ++ domain ++ " a=(empty) match=false")])
  else
    let start := "domain=" ++ domain ++ " a=" ++ target
    let asked := Event.asked (.address ip.family target)
    match dns.address ip.family target with
    | .error fault => (false, [asked, .noted (start ++ " error=" ++ fault.message)])
    | .ok addresses =>
      let found := addresses.contains ip
      (found, [asked, .noted (start ++ " addresses=" ++
        ",".intercalate (addresses.map (·.print)) ++ " match=" ++ truth found)])

/-- Tries hosts in turn until one has the sending address; a host without a name is passed over. -/
def hostsMatch (dns : Dns.Resolver) (ip : Ip.Address) (domain : String) :
    List String → Bool × Log
  | [] => (false, [])
  | host :: hosts =>
    let name := Text.trimDots host
    if name.isEmpty then hostsMatch dns ip domain hosts
    else
      let (found, log) := addressMatches dns ip domain name
      if found then (true, log)
      else
        let (later, rest) := hostsMatch dns ip domain hosts
        (later, log ++ rest)

/-- Whether a mail exchanger of `target` has the sending address. -/
def mxMatches (dns : Dns.Resolver) (ip : Ip.Address) (domain target : String) : Bool × Log :=
  if target.isEmpty then (false, [.noted ("domain=" ++ domain ++ " mx=(empty) match=false")])
  else
    let start := "domain=" ++ domain ++ " mx=" ++ target
    let asked := Event.asked (.mx target)
    match dns.mx target with
    | .error fault => (false, [asked, .noted (start ++ " error=" ++ fault.message)])
    | .ok hosts =>
      let (found, log) := hostsMatch dns ip domain hosts
      (found, asked :: .noted (start ++ " hosts=" ++ ",".intercalate hosts) :: log)

/-! ## Records -/

/-- The verdict of a step and what happened in it. -/
abbrev Step := Verdict × Log

/-- What trying a mechanism ends in: the verdict is settled, or the mechanism matches or not. -/
inductive Trial where
  | settled (verdict : Verdict)
  | tested (found : Bool)

/-- Tries a mechanism on the sending address.  `visit` evaluates a domain one level deeper. -/
def tryMechanism (dns : Dns.Resolver) (ip : Ip.Address) (visit : String → Step)
    (domain record : String) : Mechanism → Trial × Log
  | .all => (.tested true, [])
  | .ip4 block => (.tested (ip.inBlock block), [])
  | .ip6 block => (.tested (ip.inBlock block), [])
  | .includes target =>
    if target.isEmpty then
      (.settled (.faulty domain .permError (some record) .emptyInclude), [])
    else
      let (v, log) := visit target
      let log := Event.noted ("domain=" ++ domain ++ " include=" ++ target) :: log
      if v.hitLimit then
        (.settled (.faulty domain .permError (some record) .recursionLimit), log)
      else (.tested (v.raw = .pass), log)
  | .a target =>
    let (found, log) := addressMatches dns ip domain (target.getD domain)
    (.tested found, log)
  | .mx target =>
    let (found, log) := mxMatches dns ip domain (target.getD domain)
    (.tested found, log)

/-- What a record says when no term of it matches: the last redirect decides, and without one the
result is neutral. -/
def fallThrough (visit : String → Step) (domain record : String) : Option String → Step
  | none => (.plain domain .neutral (some record), [])
  | some target =>
    if target.isEmpty then (.faulty domain .permError (some record) .emptyRedirect, [])
    else
      let (v, log) := visit target
      ({ v with redirectChain := target :: v.redirectChain },
        .noted ("domain=" ++ domain ++ " redirect=" ++ target) :: log)

/-- The line that says which token of a record matched. -/
def matchedLine (domain : String) (token : List Char) (qualifier : Qualifier) : String :=
  "domain=" ++ domain ++ " matched=" ++ String.ofList token ++
    " qualifier=" ++ qualifier.symbol.toString ++ " raw=" ++ qualifier.result.name

/-- Tries one token of a record: the verdict that it settles, if it settles one. -/
def attempt (dns : Dns.Resolver) (ip : Ip.Address) (visit : String → Step)
    (domain record : String) (token : List Char) : Option Verdict × Log :=
  match Term.ofChars token with
  | .redirect _ => (none, [])
  | .unsupported term =>
    (some (.faulty domain .permError (some record) (.unsupported term)),
      [.noted ("domain=" ++ domain ++ " unsupported_mechanism=" ++ term)])
  | .directive qualifier mechanism =>
    match tryMechanism dns ip visit domain record mechanism with
    | (.settled v, log) => (some v, log)
    | (.tested true, log) =>
      (some (.plain domain qualifier.result (some record)),
        log ++ [.noted (matchedLine domain token qualifier)])
    | (.tested false, log) => (none, log)

/-- Tries the tokens of a record in order; `redirect` is the target of the last redirect passed. -/
def scan (dns : Dns.Resolver) (ip : Ip.Address) (visit : String → Step) (domain record : String) :
    Option String → List (List Char) → Step
  | redirect, [] => fallThrough visit domain record redirect
  | redirect, token :: tokens =>
    match attempt dns ip visit domain record token with
    | (some v, log) => (v, log)
    | (none, log) =>
      let redirect := (Term.ofChars token).redirect?.or redirect
      let (v, rest) := scan dns ip visit domain record redirect tokens
      (v, log ++ rest)

/-- Evaluates a record as if `domain` published it. -/
def checkRecord (dns : Dns.Resolver) (ip : Ip.Address) (visit : String → Step)
    (domain record : String) : Step :=
  let cs := Text.trimOf Text.isBlank record.toList
  let record := String.ofList cs
  if isRecord cs then scan dns ip visit domain record none (tokensOf cs)
  else (.faulty domain .permError (some record) .notARecord, [])

/-! ## Domains -/

/-- The line that ends the trace of a domain. -/
def summary (v : Verdict) : String :=
  let line := "domain=" ++ v.domain ++ " raw=" ++ v.raw.name ++ " result=" ++ v.raw.outcome.name
  if v.redirectChain.isEmpty then line
  else line ++ " redirect_chain=" ++ "->".intercalate v.redirectChain

/-- The SPF records among the text records of a domain, without blanks around them. -/
def recordsAmong (texts : List String) : List String :=
  (texts.map Text.trim).filter fun r => isRecord r.toList

/-- Evaluates the policy of a domain with `levels` levels left. -/
def checkDomain (dns : Dns.Resolver) (ip : Ip.Address) : Nat → String → Step
  | 0, domain =>
    (.faulty domain .permError none .recursionLimit, [.stopped domain])
  | levels + 1, domain =>
    let asked := Event.asked (.txt domain)
    let start := "domain=" ++ domain ++ " spf_record="
    match dns.txt domain with
    | .error fault =>
      let fault := Fault.lookupFailed fault
      (.faulty domain .tempError none fault,
        [asked, .noted (start ++ "(none) raw=temperror result=invalid error=" ++ fault.message)])
    | .ok texts =>
      match recordsAmong texts with
      | [] => (.plain domain .none none, [asked, .noted (start ++ "(none) raw=none result=none")])
      | [record] =>
        let (v, log) := checkRecord dns ip (checkDomain dns ip levels) domain record
        (v, asked :: .noted (start ++ record) :: log ++ [.noted (summary v)])
      | _ =>
        (.faulty domain .permError none .severalRecords,
          [asked, .noted (start ++ "(multiple) raw=permerror result=invalid error=" ++
            Fault.severalRecords.message)])

/-! ## Evaluations -/

/-- The evaluation of a domain or a record for a sending address. -/
structure Evaluation where
  verdict : Verdict
  log : Log

namespace Evaluation

/-- The outcome that the blocking policy sees. -/
def outcome (e : Evaluation) : Outcome := e.verdict.raw.outcome

/-- The text of the error, if there is one. -/
def error (e : Evaluation) : Option String := e.verdict.fault.map Fault.message

/-- The lines that describe the evaluation. -/
def trace (e : Evaluation) : List String := e.log.trace

/-- The queries to the name servers, in order. -/
def queries (e : Evaluation) : List Dns.Query := e.log.queries

end Evaluation

/-- A domain name as it is evaluated: without blanks around it and in lower case. -/
def normalizeDomain (domain : String) : String := Text.lower (Text.trim domain)

/-- Evaluates the policy of a domain. -/
def evaluate (dns : Dns.Resolver) (domain : String) (ip : Ip.Address) : Evaluation :=
  let (verdict, log) := checkDomain dns ip maxDepth (normalizeDomain domain)
  ⟨verdict, log⟩

/-- Evaluates a record as if the domain published it. -/
def evaluateRecord (dns : Dns.Resolver) (domain : String) (ip : Ip.Address) (record : String) :
    Evaluation :=
  let (verdict, log) :=
    checkRecord dns ip (checkDomain dns ip (maxDepth - 1)) (normalizeDomain domain) record
  ⟨verdict, log⟩

theorem evaluate_eq (dns : Dns.Resolver) (domain : String) (ip : Ip.Address) :
    evaluate dns domain ip =
      ⟨(checkDomain dns ip maxDepth (normalizeDomain domain)).1,
        (checkDomain dns ip maxDepth (normalizeDomain domain)).2⟩ := rfl

theorem evaluateRecord_eq (dns : Dns.Resolver) (domain : String) (ip : Ip.Address)
    (record : String) :
    evaluateRecord dns domain ip record =
      ⟨(checkRecord dns ip (checkDomain dns ip (maxDepth - 1)) (normalizeDomain domain) record).1,
        (checkRecord dns ip (checkDomain dns ip (maxDepth - 1))
          (normalizeDomain domain) record).2⟩ := rfl

end SpamVerdict.Spf
