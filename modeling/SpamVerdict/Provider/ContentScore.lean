import SpamVerdict.Provider.Report
import SpamVerdict.Http.Exchange
import SpamVerdict.Mail.Message
set_option autoImplicit false

/-!
# The content score (SPEC_FULL §6, §14.3)

The whole message is sent to a scoring service, which answers with a JSON object that holds a
score.  Anything but a successful answer with a number is reported as an error.

The request of SPEC_FULL §6 is a POST to the endpoint with the text of the message and the option
`short`.  The errors are the four of §14.3, in the order in which a reply is looked at: no reply, a
status that reports no success, a body that is not JSON, and no numeric score in it.
-/

namespace SpamVerdict.Provider

/-- How the service introduces itself to its peers. -/
def userAgent : String := "spamblock/0.1.0"

namespace ContentScore

/-- The request for a message, unless the endpoint is no address. -/
def request? (endpoint : String) (m : Mail.Message) : Option Http.Request :=
  (Http.Url.parse endpoint).toOption.map fun url => {
    method := "POST", url, userAgent
    contentType := some "application/json"
    body := some (Json.ofPairs [("email", .string m.rawText), ("options", .string "short")]) }

/-- The report on a reply. -/
def reportOn (decoder : Http.Decoder) (reply : Http.Reply) : Report :=
  if !reply.isSuccess then
    (Report.failed contentName "Non-2xx response from Postmark Spamcheck").withStatus reply.status
  else match reply.body with
    | none =>
      ((Report.failed contentName "Network error calling Postmark Spamcheck").withStatus
        reply.status).withData "detail" (.string "body")
    | some bytes =>
      match Json.parse? (Http.bodyText decoder reply.contentType bytes) with
      | some (.object members) =>
        match numeric? (Json.Members.get? "score" members) with
        | some score => (Report.scored contentName (some score)).withStatus reply.status
        | none => missing reply.status
      | some (.array _) => missing reply.status
      | _ =>
        (Report.failed contentName "Unable to decode Postmark Spamcheck response JSON").withStatus
          reply.status
where
  /-- The report on an answer without a score. -/
  missing (status : Nat) : Report :=
    (Report.failed contentName "Postmark Spamcheck response missing numeric score").withStatus
      status

/-- The report on a message. -/
def check (decoder : Http.Decoder) (peers : Http.Peers) (endpoint : String)
    (m : Mail.Message) : Report :=
  match peers.ask (request? endpoint m) with
  | .ok reply => reportOn decoder reply
  | .error detail =>
    (Report.failed contentName "Network error calling Postmark Spamcheck").withData "detail"
      (.string detail)

end ContentScore

end SpamVerdict.Provider
