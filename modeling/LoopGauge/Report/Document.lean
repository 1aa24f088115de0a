import LoopGauge.Document.Results
import LoopGauge.Package
import LoopGauge.Plan
import LoopGauge.Time.Moment

/-!
# The report as a document

A run as one JSON object, for other programs to read.

## Main definitions

* `document`: the object.
* `documentText`: its text, with one entry a line.
-/

namespace LoopGauge.Report

open Json

/-- The report of a run as an object. -/
def document (moment : Time.Moment) (p : Plan) (b : BenchResult) (s : RunSummary) : Value :=
  .object [
    ("version", .text Package.version),
    ("timestamp", .text moment.full),
    ("budget_ms", .ofWord p.budget.millisWord),
    ("slice_ms", .real s.slice.asMillis),
    ("duration_ms", .real s.total.asMillis),
    ("enabled", .array (s.enabled.map Document.subTest.write)),
    ("successful_tests", .ofWord s.successful),
    ("results", Document.bench.write b)]

/-- The text of the report. -/
def documentText (moment : Time.Moment) (p : Plan) (b : BenchResult) (s : RunSummary) : String :=
  (document moment p b s).prettyText

end LoopGauge.Report
