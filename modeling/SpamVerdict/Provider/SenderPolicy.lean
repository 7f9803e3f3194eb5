import SpamVerdict.Provider.Report
import SpamVerdict.Spf.Evaluation
import SpamVerdict.Mail.Message
set_option autoImplicit false

/-!
# The sender policy (SPEC_FULL §14.4)

The policy of the sender's domain is evaluated for the sending address.  There is never a score;
the outcome stands among the details.

By SPEC_FULL §14.4 a message without a usable domain or without an address has the outcome
`invalid`, with an error that says which of the two is missing.  An evaluation that ends in an error
reports it with the same outcome (§4.1, §7).
-/

namespace SpamVerdict.Provider.SenderPolicy

/-- The report on a message that cannot be evaluated. -/
def invalid (error domain ip : String) : Report :=
  (((Report.failed spfName error).withData "result" (.string Spf.Outcome.invalid.name)).withData
    "domain" (.string domain)).withData "ip" (.string ip)

/-- The report on an evaluation. -/
def reportOn (domain ip : String) (e : Spf.Evaluation) : Report :=
  { provider := spfName
    score := none
    error := e.error
    status := none
    data := Json.Members.ofList [
      ("result", .string e.outcome.name),
      ("domain", .string domain),
      ("evaluated_domain", .string e.verdict.domain),
      ("redirect_chain", .ofStrings e.verdict.redirectChain),
      ("ip", .string ip),
      ("record", .ofOption .string e.verdict.record),
      ("raw", .string e.verdict.raw.name),
      ("trace", .ofStrings e.trace)] }

/-- The report on a message. -/
def check (dns : Dns.Resolver) (m : Mail.Message) : Report :=
  let ipText := Text.trim m.ip
  match m.senderDomain? with
  | none => invalid "Unable to determine sender domain for SPF check" "" ipText
  | some domain =>
    match Ip.Address.parse? ipText with
    | none => invalid "No valid IP address available for SPF check" domain ipText
    | some ip => reportOn domain ipText (Spf.evaluate dns domain ip)

end SpamVerdict.Provider.SenderPolicy
