import SpamVerdict.Provider.ContentScore
import SpamVerdict.Failure
set_option autoImplicit false

/-!
# The reputation (SPEC_FULL §6, §14.2)

The sender and the sending address are looked up in a reputation service, which answers with a
confidence for each of them; the higher one is the score.  Texts of the sender enter the lookup
only as form-encoded values.

The pairs of a look-up, and that there is none without a sender and an address, are fixed by
SPEC_FULL §6; the texts of the errors and what stands among the details, by §14.2.  The answer says
by `success` whether it is one; `succeeded` lists the values that say so.
-/

namespace SpamVerdict.Provider.Reputation

/-- An endpoint is an address on the web. -/
def checkEndpoint (endpoint : String) : Except Failure Unit :=
  match Http.Url.parse endpoint with
  | .ok _ => .ok ()
  | .error fault => .error (.config ("Invalid StopForumSpam url: " ++ fault.message))

/-- The pairs of a lookup: two fixed ones and the texts that are not empty. -/
def lookupPairs (email ip : String) : List (List Char × List Char) :=
  [("json", "1"), ("confidence", "1")].map (fun (k, v) => (k.toList, v.toList)) ++
    ([("email", email), ("ip", ip)].filter (fun p => !p.2.isEmpty)).map
      fun (k, v) => (k.toList, v.toList)

/-- The address of a lookup, unless the endpoint is no address. -/
def lookupUrl? (endpoint email ip : String) : Option Http.Url :=
  (Http.Url.parse endpoint).toOption.map fun url => url.withPairs (lookupPairs email ip)

/-- The request of a lookup. -/
def requestOf (url : Http.Url) : Http.Request :=
  { method := "GET", url, userAgent }

/-- The answer reports success: `true`, or a number equal to one. -/
def succeeded (answer : Json) : Bool :=
  match answer.get? "success" with
  | some (.bool b) => b
  | other =>
    match numeric? other with
    | some x => x == UInt64.toFloat 1
    | none => false

/-- The larger of two numbers. -/
def larger (x y : Float) : Float := if x < y then y else x

/-- The details under one field of an answer, put into a report whose score is the highest
confidence so far. -/
def addField (answer : Json) (r : Report) (field : String) : Report :=
  match answer.get? field with
  | none => r
  | some entry =>
    let number (key : String) : Option Float := numeric? (entry.get? key)
    let detail (key : String) : Json := .ofOption .ofFloat (number key)
    let r := { r with
      score := match r.score, number "confidence" with
        | some s, some c => some (larger s c)
        | none, c => c
        | s, none => s }
    ((r.withData (field ++ "_confidence") (detail "confidence"))
      |>.withData (field ++ "_appears") (detail "appears"))
      |>.withData (field ++ "_frequency") (detail "frequency")

/-- The text of the error that an answer reports. -/
def errorOf (answer : Json) : String :=
  match (answer.get? "error").bind Json.string? with
  | some text => if text.isEmpty then "StopForumSpam lookup failed" else text
  | none => "StopForumSpam lookup failed"

/-- The report on a reply to a lookup. -/
def reportOn (url : Http.Url) (reply : Http.Reply) : Report :=
  let failed (error : String) : Report :=
    ((Report.failed reputationName error).withStatus reply.status).withData "url"
      (.string url.print)
  if !reply.isSuccess then failed "Non-2xx response from StopForumSpam"
  else match reply.body.bind Http.bodyJson? with
    | some (.object members) =>
      let answer := Json.object members
      if succeeded answer then
        ["email", "ip"].foldl (addField answer)
          (((Report.scored reputationName none).withStatus reply.status).withData "url"
            (.string url.print))
      else failed (errorOf answer)
    | _ => failed "Unable to decode StopForumSpam response JSON"

/-- The address that is looked up for a message, unless there is nothing to look up. -/
def urlFor? (endpoint : String) (m : Mail.Message) : Except String Http.Url :=
  let email := Text.trim m.sender
  let ip := Text.trim m.ip
  if email.isEmpty && ip.isEmpty then .error "No email or IP available for StopForumSpam lookup"
  else match lookupUrl? endpoint email ip with
    | some url => .ok url
    | none => .error "Invalid StopForumSpam endpoint"

/-- The report on a message. -/
def check (peers : Http.Peers) (endpoint : String) (m : Mail.Message) : Report :=
  match urlFor? endpoint m with
  | .error error => .failed reputationName error
  | .ok url =>
    match peers.ask (some (requestOf url)) with
    | .ok reply => reportOn url reply
    | .error detail =>
      ((Report.failed reputationName "Network error calling StopForumSpam").withData "url"
        (.string url.print)).withData "detail" (.string detail)

end SpamVerdict.Provider.Reputation
