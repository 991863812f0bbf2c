import QuotedLiteral.Main
import QuotedLiteral.Proofs.Commands
import QuotedLiteral.Proofs.Isolation
import QuotedLiteral.Proofs.Locality
import QuotedLiteral.Proofs.Pipe
import QuotedLiteral.Proofs.Report
import QuotedLiteral.Proofs.RoundTrip
import QuotedLiteral.Proofs.Stability
import QuotedLiteral.Proofs.Tracing
import QuotedLiteral.Proofs.Unescaped
import QuotedLiteral.Proofs.ClosingQuote
import QuotedLiteral.Proofs.StepCount
import QuotedLiteral.Proofs.Diagnosis
import QuotedLiteral.Proofs.Joining
import QuotedLiteral.Proofs.CleanText
import QuotedLiteral.Proofs.Composition
import QuotedLiteral.Proofs.SpecUnion
import QuotedLiteral.Proofs.FlagNames
import QuotedLiteral.Proofs.NoticeForm
import QuotedLiteral.Proofs.KnownNames
import QuotedLiteral.Proofs.OneLine
import QuotedLiteral.Proofs.DialectReport
import QuotedLiteral.Proofs.ContentGrowth
