import SpamVerdict.Http.Charset
import SpamVerdict.Http.MediaType
import SpamVerdict.Http.Url
import SpamVerdict.Json.Printer
import SpamVerdict.Json.Reading
set_option autoImplicit false

/-!
# Exchanges with a peer (SPEC_FULL §6, §7)

A request is what is sent to a peer, and a reply what comes back: the head of the answer, and its
body unless the connection ends before the body does.  An exchange without a reply carries the
reason.  `Peers` gives the outcome of every request, so a check that asks peers is a function of
them.

SPEC_FULL §9 asks for the remote services to be injected like that.  A time limit (§5) is one of the
reasons for which there is no reply, and redirects, encryption and the names of hosts are matters of
the peers as well.  What is not left to them is which requests are made at all (`Peers.ask`).
-/

namespace SpamVerdict.Http

/-- What is sent to a peer. -/
structure Request where
  method : String
  url : Url
  userAgent : String
  contentType : Option String := none
  body : Option Json := none

/-- What a peer sends back. -/
structure Reply where
  status : Nat
  contentType : Option String
  /-- The bytes of the body, absent if they could not all be read. -/
  body : Option (List UInt8)

/-- A status that reports success. -/
def Reply.isSuccess (r : Reply) : Bool := 200 ≤ r.status && r.status < 300

/-- The outcome of every request: a reply, or the reason why there is none. -/
abbrev Peers := Request → Except String Reply

/-- No peer can be reached. -/
def Peers.unreachable : Peers := fun _ => .error "unreachable"

/-- The outcome of a request.  It is made only if there is one, and if its address is on the web:
no other scheme is spoken, and whether a peer can be reached is for `Peers` to say. -/
def Peers.ask (peers : Peers) (request : Option Request) : Except String Reply :=
  match request with
  | some r => if r.url.isWeb then peers r else .error "scheme"
  | none => .error "address"

/-! ## Text of a body -/

/-- The encoding that a content type names, and UTF-8 if it names none that is known. -/
def charsetOf (contentType : String) : Charset :=
  (((MediaType.parse? contentType).bind (·.parameter "charset")).bind Charset.ofName?).getD .utf8

/-- The text of a body: a byte-order mark decides the encoding and is dropped, and without one
the content type does. -/
def bodyText (decoder : Decoder) (contentType : Option String) : List UInt8 → String
  | 0xEF :: 0xBB :: 0xBF :: bytes => String.ofList (Charset.utf8.decode decoder bytes)
  | 0xFE :: 0xFF :: bytes => String.ofList ((Charset.utf16 true).decode decoder bytes)
  | 0xFF :: 0xFE :: bytes => String.ofList ((Charset.utf16 false).decode decoder bytes)
  | bytes => String.ofList (((contentType.map charsetOf).getD .utf8).decode decoder bytes)

/-- The JSON value of bytes, which must be UTF-8. -/
def bodyJson? (bytes : List UInt8) : Option Json :=
  (Text.Utf8.decode? bytes).bind fun cs => Json.parse? (String.ofList cs)

end SpamVerdict.Http
