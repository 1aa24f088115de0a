import LoopGauge.Document.Settings
import LoopGauge.Engine.StopFlags
import LoopGauge.Log.Family
import LoopGauge.Machine.Files
import LoopGauge.Machine.Offline
import LoopGauge.Main
import LoopGauge.Proofs.EnvFile.Assignments
import LoopGauge.Proofs.Settings.Merge
import LoopGauge.Proofs.Settings.Priority
import LoopGauge.Proofs.Settings.FirstRefusal
import LoopGauge.Proofs.Dialogue
import LoopGauge.Proofs.Result.Slots
import LoopGauge.Proofs.Result.Latest
import LoopGauge.Proofs.Run.Course
import LoopGauge.Proofs.Report.Verdict
import LoopGauge.Proofs.Run.Account
import LoopGauge.Proofs.Text.Lines
import LoopGauge.Proofs.Text.Utf8
import LoopGauge.Proofs.EnvFile.Readable
import LoopGauge.Proofs.Session.Stages
import LoopGauge.Proofs.Settings.Refusal
import LoopGauge.Proofs.Datagram.Client
import LoopGauge.Proofs.Datagram.Echo
import LoopGauge.Proofs.Datagram.Network
import LoopGauge.Proofs.Datagram.Tag
import LoopGauge.Proofs.Session.ExitCode
import LoopGauge.Proofs.Datagram.Rounds
import LoopGauge.Proofs.Datagram.Samples
import LoopGauge.Proofs.Settings.Warnings
import LoopGauge.Proofs.Settings.Adjustments
import LoopGauge.Proofs.EnvFile.Plain
import LoopGauge.Proofs.EnvFile.Agreement
import LoopGauge.Proofs.Transcript
import LoopGauge.Proofs.Session.StandardOutput
import LoopGauge.Proofs.Json.Grammar
import LoopGauge.Proofs.Moment
import LoopGauge.Proofs.Stream.Pipe
import LoopGauge.Proofs.Stream.Caller
import LoopGauge.Proofs.Stream.Line
import LoopGauge.Proofs.Conformance
import LoopGauge.Proofs.Stream.LockStep
import LoopGauge.Proofs.Engine.Ports
import LoopGauge.Proofs.Engine.StopFlags
import LoopGauge.Proofs.Transfer.Ledger
import LoopGauge.Proofs.Transfer.Traffic
import LoopGauge.Proofs.Transfer.Conservation
import LoopGauge.Proofs.Measurement.Trace
import LoopGauge.Proofs.Measurement.Orderly
import LoopGauge.Proofs.Style.Styling
import LoopGauge.Proofs.Report.Ruled
import LoopGauge.Proofs.Report.Aligned
import LoopGauge.Proofs.Report.Presentation
import LoopGauge.Proofs.Report.Escapes
import LoopGauge.Proofs.Json.Leaves
import LoopGauge.Proofs.Json.Reading
import LoopGauge.Proofs.Json.Layout
import LoopGauge.Proofs.Json.Meaning
import LoopGauge.Proofs.Json.Decoding
import LoopGauge.Proofs.Document.Settings
import LoopGauge.Proofs.Json.Keys
import LoopGauge.Proofs.Json.Plain
import LoopGauge.Proofs.Report.Document
import LoopGauge.Proofs.Time.Date
import LoopGauge.Proofs.Time.Stamp
import LoopGauge.Proofs.Json.Printable
import LoopGauge.Proofs.Document.Entry
import LoopGauge.Proofs.Log.Journal
import LoopGauge.Proofs.Log.Record
import LoopGauge.Proofs.Run.Correlation
import LoopGauge.Proofs.Number.Order
import LoopGauge.Proofs.Statistics.Ordered
import LoopGauge.Proofs.Statistics.NaN
import LoopGauge.Proofs.Number.Exact
import LoopGauge.Proofs.Result.Loss
import LoopGauge.Proofs.Statistics.Percentile
import LoopGauge.Proofs.Statistics.Figures
import LoopGauge.Proofs.SubTest
import LoopGauge.Proofs.Span
import LoopGauge.Proofs.Plan
import LoopGauge.Proofs.Number.Numeral
import LoopGauge.Proofs.Settings.Budget
import LoopGauge.Proofs.Run.Rounds
import LoopGauge.Proofs.Run.Tally
import LoopGauge.Proofs.Text.Casing
import LoopGauge.Proofs.Spelling
import LoopGauge.Proofs.Log.Level
import LoopGauge.Proofs.Log.SingleLine
import LoopGauge.Proofs.Report.Budget
import LoopGauge.Proofs.Report.Bytes
import LoopGauge.Proofs.Report.Grid
import LoopGauge.Proofs.Report.Headers
import LoopGauge.Proofs.Transfer.Sender
