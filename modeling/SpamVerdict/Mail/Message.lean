import SpamVerdict.Mail.Header
import SpamVerdict.Json.Printer
set_option autoImplicit false

/-!
# The message under inspection (SPEC_FULL §3, §4.1, §14.1)

A host hands over the variables of a ticket: loose JSON members, of which some describe a mail
message.  `Message.ofVars` makes a message of them and settles the sending address.

The five variables that may hold the address, and their order, are those of SPEC_FULL §4.1, step 1;
the header block is searched only if none of them does.  By §14.1 a variable that is no text is
encoded as JSON, of which `null` is left out here, and `Message.rawText` puts header block and body
together with a blank line between them.
-/

namespace SpamVerdict.Mail

/-- The variables of a ticket. -/
abbrev Vars := Json.Members

/-- What the checks need to know about a message. -/
structure Message where
  /-- The message id. -/
  mid : String
  /-- The address of the sender. -/
  sender : String
  subject : String
  /-- The header block as received. -/
  header : String
  body : String
  /-- The sending address, empty if it is not known. -/
  ip : String
  deriving DecidableEq, Repr, Inhabited

/-- The text of a variable: a text as it is, nothing for `null`, and JSON for anything else. -/
def varText (vars : Vars) (key : String) : String :=
  match vars.get? key with
  | none => ""
  | some .null => ""
  | some (.string s) => s
  | some value => value.render

/-- The variables that may hold the sending address, most trusted first. -/
def addressVars : List String := ["ip", "ip_address", "ipaddr", "client_ip", "clientip"]

/-- The sending address: that of the first variable which holds one, or else the preferred one
of the header block. -/
def sendingIp? (vars : Vars) (header : String) : Option Ip.Address :=
  let named := addressVars.findSome? fun key =>
    ((vars.get? key).bind Json.string?).bind normalizeIp?
  named.or (Ip.preferPublic (candidates header))

namespace Message

/-- The message that the variables of a ticket describe. -/
def ofVars (vars : Vars) : Message :=
  let header := varText vars "header"
  { mid := varText vars "mid"
    sender := varText vars "email"
    subject := varText vars "subject"
    header
    body := varText vars "message"
    ip := ((sendingIp? vars header).map (·.print)).getD "" }

/-- A header block was handed over. -/
def hasHeader (m : Message) : Bool := !(Text.trim m.header).isEmpty

/-- The domain of the sender, if the address has one. -/
def senderDomain? (m : Message) : Option String := Mail.senderDomain? m.sender

/-- Whether a text ends with another one. -/
def endsWith (cs suffix : List Char) : Bool := suffix.isSuffixOf cs

/-- What has to stand between a header block and the body so that exactly one blank line
separates them. -/
def separator (header : List Char) : List Char :=
  if endsWith header ['\r', '\n', '\r', '\n'] || endsWith header ['\n', '\n'] then []
  else if endsWith header ['\r', '\n'] then ['\r', '\n']
  else if endsWith header ['\n'] then ['\n']
  else ['\r', '\n', '\r', '\n']

/-- The whole message as text: header block, blank line, body. -/
def rawText (m : Message) : String :=
  if m.header.isEmpty then m.body
  else m.header ++ String.ofList (separator m.header.toList) ++ m.body

end Message

end SpamVerdict.Mail
