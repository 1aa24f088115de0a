import LoopGauge.Report.Table

/-!
# Formatters

A formatter turns the parts of a report into text. There is one for plain text and one for
terminals with colours; the whole report is put together in the same way with either.

## Main definitions

* `Formatter`: the parts of a report as text.
* `Formatter.plain`, `Formatter.coloured`: the two formatters.
* `Formatter.results`: the whole report, and `Formatter.results?`: that of a build that checks its
  sums.
-/

namespace LoopGauge.Report

open Number Style Text

/-- How the parts of a report are written. -/
structure Formatter where
  header : String → String
  runSummary : RunSummary → String
  latencyTable : BenchResult → List SubTest → String
  throughputTable : BenchResult → List SubTest → String
  quickSummary : BenchResult → RunSummary → String
  error : String → String
  warning : String → String
  success : String → String

/-- What a formatter is asked for. -/
structure Options where
  enableColour : Bool := true
  /-- Whether the latency table shows all figures. -/
  verbose : Bool := false
  borders : Bool := true
deriving DecidableEq, Repr, Inhabited

/-- The length of a span. -/
def spanText (s : Span) : String := millis s.asMillis

/-- The names of the sub-tests that ran. -/
def enabledText (s : RunSummary) : String := SubTest.listing s.enabled

namespace Formatter

/-- A title, set off by two blanks, between two lines. -/
def framed (line text : String) : String := line ++ "\n  " ++ text ++ "  \n" ++ line

/-- The text of a plain table. -/
def plainTable (o : Options) (columns : List Column) (rows : List (List String)) : String :=
  TableFormat.draw ⟨columns, o.borders, true⟩ rows

/-- The formatter for plain text. -/
def plain (o : Options) : Formatter where
  header title :=
    let line := repeated (width title + 4) '='
    framed line title
  runSummary s := join "\n" [
    "Run Summary:",
    "------------",
    "Sub-tests:        " ++ enabledText s,
    "Slice per test:   " ++ spanText s.slice,
    "Total Duration:   " ++ spanText s.total,
    "Successful:       " ++ decimal s.successful.toNat ++ " (" ++ percentage s.successRate ++ ")",
    "Failed:           " ++ decimal s.failed]
  latencyTable b enabled :=
    plainTable o (latencyColumns o.verbose)
      (latencyTests.map (plainLatencyRow o.verbose b enabled))
  throughputTable b enabled :=
    plainTable o throughputColumns (throughputTests.map (plainThroughputRow b enabled))
  quickSummary b s :=
    decimal s.successful.toNat ++ "/" ++ decimal s.enabled.length ++ " sub-tests succeeded" ++
      " | TCP rtt " ++ micros b.tcpLatency.medianUs ++
      " | UDP rtt " ++ micros b.udpLatency.medianUs ++
      " | TCP " ++ b.tcpThroughput.mibPerSec.fixed 1 ++ " MiB/s" ++
      " | UDP " ++ b.udpThroughput.mibPerSec.fixed 1 ++ " MiB/s | " ++ spanText s.total
  error text := "ERROR: " ++ text
  warning text := "WARNING: " ++ text
  success text := "SUCCESS: " ++ text

/-- The brush of a coloured formatter, which leaves the text alone if colours are off. -/
def brush (ink : Ink) (o : Options) (scheme : Scheme) : Brush where
  tone t s := if o.enableColour then (Paint.of (t.colour scheme)).apply ink s else s
  bold s := if o.enableColour then Paint.apply ink { bold := true } s else s

/-- The title of a coloured report: it keeps its colour even if colours are off. -/
def title (ink : Ink) (o : Options) (scheme : Scheme) (s : String) : String :=
  Paint.apply ink ⟨o.enableColour, some scheme.header⟩ s

/-- The formatter for terminals with colours. -/
def coloured (ink : Ink) (o : Options) (scheme : Scheme) : Formatter :=
  let brush := brush ink o scheme
  let role (r : Role) (s : String) : String := brush.tone (.role r) s
  let rtt (us : Binary64) : String := brush.tone (.level (LatencyLevel.ofMicros us)) (micros us)
  { header := fun s =>
      framed (role .header (repeated (width s + 4) '═')) (title ink o scheme s)
    runSummary := fun s => join "\n" [
      brush.bold "Run Summary",
      "  Sub-tests:      " ++ if s.enabled.isEmpty then role .warning "none" else enabledText s,
      "  Slice per test: " ++ spanText s.slice,
      "  Total duration: " ++ spanText s.total,
      "  Successful:     " ++ role .success (decimal s.successful.toNat) ++ " (" ++
        role (percentageRole s.successRate) (percentage s.successRate) ++ ")",
      "  Failed:         " ++
        if 0 < s.failed then role .error (decimal s.failed) else decimal s.failed]
    latencyTable := fun b enabled =>
      drawRuled brush (latencyColumns o.verbose)
        (latencyTests.map (latencyRow o.verbose b enabled))
    throughputTable := fun b enabled =>
      drawRuled brush throughputColumns (throughputTests.map (throughputRow b enabled))
    quickSummary := fun b s =>
      role .success (decimal s.successful.toNat) ++ "/" ++ decimal s.enabled.length ++ " ok" ++
        " | TCP rtt " ++ rtt b.tcpLatency.medianUs ++
        " | UDP rtt " ++ rtt b.udpLatency.medianUs ++
        " | TCP " ++ role .info (b.tcpThroughput.mibPerSec.fixed 1) ++ " MiB/s" ++
        " | UDP " ++ role .info (b.udpThroughput.mibPerSec.fixed 1) ++ " MiB/s | " ++
        spanText s.total
    error := fun s => "✗ " ++ role .error s
    warning := fun s => "! " ++ role .warning s
    success := fun s => "✓ " ++ role .success s }

/-- The formatter for a wish for colours. -/
def choose (ink : Ink) (enableColour verbose : Bool) : Formatter :=
  let o : Options := { enableColour := enableColour, verbose := verbose }
  if enableColour then coloured ink o {} else plain o

/-- The last line of a report. -/
inductive Verdict where
  | nothingEnabled
  | allSucceeded
  | someFailed (failed total : Nat)
  | allFailed
deriving DecidableEq, Repr

/-- What is to be said of a run in the end. -/
def verdict (b : BenchResult) (s : RunSummary) : Verdict :=
  if s.enabled.isEmpty then .nothingEnabled
  else if b.allSuccessOf s.enabled then .allSucceeded
  else if b.anySuccess then .someFailed s.failed s.enabled.length
  else .allFailed

/-- The text of a verdict. -/
def verdictText (f : Formatter) : Verdict → String
  | .nothingEnabled => f.warning "No sub-tests were enabled"
  | .allSucceeded => f.success "All enabled sub-tests succeeded"
  | .someFailed failed total =>
    f.warning (decimal failed ++ " of " ++ decimal total ++ " sub-tests failed")
  | .allFailed => f.error "Every enabled sub-test failed"

/-- The whole report of a run. -/
def results (f : Formatter) (b : BenchResult) (s : RunSummary) : String :=
  join "\n\n" (
    [f.header "Loopback Benchmark Results", f.runSummary s] ++
      (if s.enabled.any SubTest.isLatency then [f.latencyTable b s.enabled] else []) ++
      (if s.enabled.any (!·.isLatency) then [f.throughputTable b s.enabled] else []) ++
      [f.verdictText (verdict b s)])

/-- The latency table of a build that checks its sums, unless it stops there. -/
def latencyTable? (f : Formatter) (b : BenchResult) (enabled : List SubTest) : Option String :=
  if latencyRowsCount b enabled then some (f.latencyTable b enabled) else none

/-- The whole report of a build that checks its sums, unless it stops at the latency table. -/
def results? (f : Formatter) (b : BenchResult) (s : RunSummary) : Option String :=
  if s.enabled.any SubTest.isLatency && !latencyRowsCount b s.enabled then none
  else some (f.results b s)

end Formatter

end LoopGauge.Report
