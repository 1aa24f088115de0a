import LoopGauge.Document.Names
import LoopGauge.RunSummary

/-!
# Documents of results

Results, reports and summaries as records. A report says which kind it is under the key `kind`.

## Main definitions

* `latency`, `throughput`, `bench`, `runSummary`, `sampleSummary`: records, all fields required.
* `report`: a result with its kind.
-/

namespace LoopGauge.Document

open Json Number

/-- A field that must be there. -/
def needed {ρ α : Type} (name : String) (c : Codec α) (get : ρ → α) (put : ρ → α → ρ) : Member ρ :=
  .of name c get put .refused

def latencyFields : List (Member LatencyResult) := [
  needed "min_us" .real (·.minUs) (fun r v => { r with minUs := v }),
  needed "max_us" .real (·.maxUs) (fun r v => { r with maxUs := v }),
  needed "mean_us" .real (·.meanUs) (fun r v => { r with meanUs := v }),
  needed "median_us" .real (·.medianUs) (fun r v => { r with medianUs := v }),
  needed "p90_us" .real (·.p90Us) (fun r v => { r with p90Us := v }),
  needed "p95_us" .real (·.p95Us) (fun r v => { r with p95Us := v }),
  needed "p99_us" .real (·.p99Us) (fun r v => { r with p99Us := v }),
  needed "p999_us" .real (·.p999Us) (fun r v => { r with p999Us := v }),
  needed "stddev_us" .real (·.stddevUs) (fun r v => { r with stddevUs := v }),
  needed "sample_count" .word (·.sampleCount) (fun r v => { r with sampleCount := v }),
  needed "lost_rounds" .word (·.lostRounds) (fun r v => { r with lostRounds := v }),
  needed "success" .flag (·.success) (fun r v => { r with success := v })]

def throughputFields : List (Member ThroughputResult) := [
  needed "mib_per_sec" .real (·.mibPerSec) (fun r v => { r with mibPerSec := v }),
  needed "mbits_per_sec" .real (·.mbitsPerSec) (fun r v => { r with mbitsPerSec := v }),
  needed "bytes_transferred" .word (·.bytesTransferred)
    (fun r v => { r with bytesTransferred := v }),
  needed "bytes_sent" .word (·.bytesSent) (fun r v => { r with bytesSent := v }),
  needed "duration_sec" .real (·.durationSec) (fun r v => { r with durationSec := v }),
  needed "success" .flag (·.success) (fun r v => { r with success := v })]

def latency : Codec LatencyResult := .record {} latencyFields .skimmed

def throughput : Codec ThroughputResult := .record {} throughputFields .skimmed

def benchFields : List (Member BenchResult) := [
  needed "tcp_latency" latency (·.tcpLatency) (fun b v => { b with tcpLatency := v }),
  needed "udp_latency" latency (·.udpLatency) (fun b v => { b with udpLatency := v }),
  needed "tcp_throughput" throughput (·.tcpThroughput) (fun b v => { b with tcpThroughput := v }),
  needed "udp_throughput" throughput (·.udpThroughput) (fun b v => { b with udpThroughput := v })]

def bench : Codec BenchResult := .record {} benchFields .skimmed

def runSummaryFields : List (Member RunSummary) := [
  needed "enabled" (.list subTest) (·.enabled) (fun s v => { s with enabled := v }),
  needed "slice" span (·.slice) (fun s v => { s with slice := v }),
  needed "total_duration" span (·.total) (fun s v => { s with total := v }),
  needed "successful_tests" .word (·.successful) (fun s v => { s with successful := v })]

def runSummary : Codec RunSummary := .record {} runSummaryFields .skimmed

/-- The summary of no samples. -/
def noSamples : Statistics.Summary Binary64 := Statistics.ofSamples []

def sampleSummaryFields : List (Member (Statistics.Summary Binary64)) := [
  needed "min" .real (·.min) (fun s v => { s with min := v }),
  needed "max" .real (·.max) (fun s v => { s with max := v }),
  needed "mean" .real (·.mean) (fun s v => { s with mean := v }),
  needed "stddev" .real (·.stddev) (fun s v => { s with stddev := v }),
  needed "p50" .real (·.p50) (fun s v => { s with p50 := v }),
  needed "p90" .real (·.p90) (fun s v => { s with p90 := v }),
  needed "p95" .real (·.p95) (fun s v => { s with p95 := v }),
  needed "p99" .real (·.p99) (fun s v => { s with p99 := v }),
  needed "p999" .real (·.p999) (fun s v => { s with p999 := v }),
  needed "count" (.natUpTo Number.wordLimit) (·.count) (fun s v => { s with count := v })]

def sampleSummary : Codec (Statistics.Summary Binary64) :=
  .record noSamples sampleSummaryFields .skimmed

/-- The two kinds of report. -/
inductive ReportKind where
  | latency
  | throughput
deriving DecidableEq, Repr

namespace ReportKind

def name : ReportKind → String
  | latency => "latency"
  | throughput => "throughput"

def ofName? (s : String) : Option ReportKind := [latency, throughput].find? (·.name = s)

/-- A string that names a kind. -/
def read : Decoder ReportKind := Decoder.text.filterMap ofName?

end ReportKind

/-- The key under which a report says its kind. -/
def kindKey : String := "kind"

/--
Looks over the entries of a report in the order of the text: the kind is read, all else must be a
value of some kind.
-/
def scanReport (room : Nat) :
    Option ReportKind → List (Literal × Tree) → Except Breach (Option ReportKind)
  | found, [] => .ok found
  | found, (key, t) :: es => do
    let k ← key.value
    if k = kindKey then
      match found with
      | some _ => .error .mismatched
      | none => scanReport room (some (← ReportKind.read room t)) es
    else
      let _ ← anything room t
      scanReport room found es

/-- Whether a key is another one than the one of the kind. -/
def isPayload (entry : Literal × Tree) : Bool :=
  match entry.1.value with
  | .ok k => k ≠ kindKey
  | .error _ => true

/-- Reads the result of a report; as its text is sound, all that can be wrong is its content. -/
def payload (kind : ReportKind) (room : Nat) (t : Tree) : Except Breach Report :=
  let result :=
    match kind with
    | .latency => (latency.read room t).map Report.latency
    | .throughput => (throughput.read room t).map Report.throughput
  result.mapError fun _ => .mismatched

/-- Reads a report: an object with its kind, or a list that starts with it. -/
def readReport : Decoder Report
  | room, .object entries ending => do
    let inner ← deeper room
    let found ← scanReport inner none entries
    ending.check
    match found with
    | some kind => payload kind room (.object (entries.filter isPayload) .closed)
    | none => .error .mismatched
  | room, .array [] ending => do
    let _ ← deeper room
    ending.check
    .error .mismatched
  | room, .array (t :: ts) ending => do
    let inner ← deeper room
    let kind ← ReportKind.read inner t
    let _ ← anyItems inner ts
    ending.check
    payload kind room (.array ts .closed)
  | _, t => refuse t

/-- Writes a report with its kind first. -/
def writeReport : Report → Value
  | .latency r =>
    .object ((kindKey, .text ReportKind.latency.name) :: entriesOf latencyFields r)
  | .throughput r =>
    .object ((kindKey, .text ReportKind.throughput.name) :: entriesOf throughputFields r)

def report : Codec Report := ⟨writeReport, readReport⟩

end LoopGauge.Document
