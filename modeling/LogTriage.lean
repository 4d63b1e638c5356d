import LogTriage.Config
import LogTriage.Service
import LogTriage.Proofs.Pattern.Outcomes
import LogTriage.Proofs.Pattern.Progress
import LogTriage.Proofs.Pattern.Captures
import LogTriage.Proofs.Grouping.ByKey
import LogTriage.Proofs.Pattern.Scan
import LogTriage.Proofs.Analysis.GroupBy
import LogTriage.Proofs.Pattern.Content
import LogTriage.Proofs.Text.Quoted
import LogTriage.Proofs.Coverage
import LogTriage.Proofs.Dmesg.Severity
import LogTriage.Proofs.Dmesg.Unknown
import LogTriage.Proofs.Dmesg.Range
import LogTriage.Proofs.Analysis.Precedence
import LogTriage.Proofs.Text.Decimal
import LogTriage.Proofs.Timestamp.Written
import LogTriage.Proofs.Timestamp.Calendar
import LogTriage.Proofs.Timestamp.Instant
import LogTriage.Proofs.Pattern.Pieces
import LogTriage.Proofs.Rule.ErrorLine
import LogTriage.Proofs.Dmesg.CatchAll
import LogTriage.Proofs.Text.CodePoints
import LogTriage.Proofs.Json.Fields
import LogTriage.Proofs.Json.Equality
import LogTriage.Proofs.Schema.Acceptance
import LogTriage.Proofs.Schema.WrittenForm
import LogTriage.Proofs.Rule.Composition
import LogTriage.Proofs.Dmesg.Args
import LogTriage.Proofs.Config
import LogTriage.Proofs.Analysis.Guarded
import LogTriage.Proofs.Dmesg.Complete
import LogTriage.Proofs.Service.Bodies
import LogTriage.Proofs.Service.Refusals
import LogTriage.Proofs.Service.Configured
import LogTriage.Proofs.Service.Complete
import LogTriage.Proofs.Text.Trim
import LogTriage.Proofs.Number.Rounding
import LogTriage.Proofs.Coverage.Untouched
import LogTriage.Proofs.MatchContent
import LogTriage.Proofs.Pattern.ScanFlags
import LogTriage.Proofs.Pattern.Leftmost
import LogTriage.Proofs.Timestamp.Widening
import LogTriage.Proofs.Grouping.Interval
import LogTriage.Proofs.Coverage.OwnLine
import LogTriage.Proofs.Dmesg.Block
import LogTriage.Proofs.Timestamp.OffsetDetection
import LogTriage.Proofs.Analysis.Spacing
import LogTriage.Proofs.Dmesg.LineByLine
import LogTriage.Proofs.Coverage.Burst
import LogTriage.Proofs.Analysis.Pruning
import LogTriage.Proofs.Rule.FaultReport
import LogTriage.Proofs.Analysis.Account
import LogTriage.Proofs.Event.Names
