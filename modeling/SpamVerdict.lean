import SpamVerdict.Checker.Step
import SpamVerdict.Dns.Table
import SpamVerdict.Main
import SpamVerdict.Service.Respond
import SpamVerdict.Proofs.Spf.Scan
import SpamVerdict.Proofs.Spf.Rules
import SpamVerdict.Proofs.Spf.Limit
import SpamVerdict.Proofs.Spf.QueryBound
import SpamVerdict.Proofs.Spf.AnswerOrder
import SpamVerdict.Proofs.Spf.FailedQueries
import SpamVerdict.Proofs.Transcript
import SpamVerdict.Proofs.Audit.History
import SpamVerdict.Proofs.Checker.Handoff
import SpamVerdict.Proofs.Checker.TestMode
import SpamVerdict.Proofs.Spf.Provenance
import SpamVerdict.Proofs.Service.Effects
import SpamVerdict.Proofs.Decision.SpfSignal
import SpamVerdict.Proofs.Provider.SpfReport
import SpamVerdict.Proofs.Checker.SpfGate
import SpamVerdict.Proofs.Spf.Depth
import SpamVerdict.Proofs.Text.Fold
import SpamVerdict.Proofs.Spf.Irrelevant
import SpamVerdict.Proofs.Ip.LetterCase
import SpamVerdict.Proofs.Spf.LetterCase
import SpamVerdict.Proofs.Ip.Membership
import SpamVerdict.Proofs.Ip.PublicRanges
import SpamVerdict.Proofs.Mail.AddressText
import SpamVerdict.Proofs.Mail.Presentation
import SpamVerdict.Proofs.Mail.SenderDomain
import SpamVerdict.Proofs.Mail.Separation
import SpamVerdict.Proofs.Mail.AddressLiteral
import SpamVerdict.Proofs.Spf.MappedSender
import SpamVerdict.Proofs.Decision.Sources
import SpamVerdict.Proofs.Provider.Lookup
import SpamVerdict.Proofs.Provider.HighestScore
import SpamVerdict.Proofs.Checker.Annotation
import SpamVerdict.Proofs.Spf.RefusedQueries
import SpamVerdict.Proofs.Spf.TraceAccount
import SpamVerdict.Proofs.Spf.TermSpelling
