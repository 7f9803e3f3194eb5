import SpamVerdict.Provider.ContentScore
import SpamVerdict.Provider.Reputation
import SpamVerdict.Provider.SenderPolicy
set_option autoImplicit false

/-!
# Providers (SPEC_FULL §9, §14.4)

A provider reports on a message, and may ask peers about it.

SPEC_FULL §9 makes a provider a capability with one method, so here it is a function, and the three
that there are (§14.2, §14.3, §14.4) are made from what they need: an endpoint, or a resolver.  One
that always gives the same report stands in for others in tests.
-/

namespace SpamVerdict

/-- Reports on a message with the help of peers. -/
abbrev Provider := Http.Peers → Mail.Message → Provider.Report

namespace Provider

/-- A provider with one report for every message. -/
def fixed (r : Report) : Provider := fun _ _ => r

/-- The content score of an endpoint, whose answers may be written in any encoding. -/
def contentScore (decoder : Http.Decoder) (endpoint : String) : Provider := fun peers m =>
  ContentScore.check decoder peers endpoint m

/-- The reputation of an endpoint, which must be an address on the web. -/
def reputation (endpoint : String) : Except Failure Provider := do
  Reputation.checkEndpoint endpoint
  return fun peers m => Reputation.check peers endpoint m

/-- The policy of the sender's domain, published in the answers of a resolver. -/
def senderPolicy (dns : Dns.Resolver) : Provider := fun _ m => SenderPolicy.check dns m

end Provider

end SpamVerdict
