import LoopGauge.Proofs.Json.Decoding
import LoopGauge.Report.Document

/-!
# The report as it is read

Whatever the counters and the measured numbers of a run are, its report is a JSON text from the
first character to the last, and a reader finds in it what the run said, under fixed keys in a
fixed order.

## Main definitions

* `latencyContent`, `throughputContent`: what a report tells of one measurement.

## Main statements

* `reads_documentText`: a report is read as an object of what the run said.
-/

namespace LoopGauge.Report

open Json

/-- What a report tells of round trips. -/
def latencyContent (r : LatencyResult) : Value :=
  .object [
    ("min_us", .real r.minUs), ("max_us", .real r.maxUs), ("mean_us", .real r.meanUs),
    ("median_us", .real r.medianUs), ("p90_us", .real r.p90Us), ("p95_us", .real r.p95Us),
    ("p99_us", .real r.p99Us), ("p999_us", .real r.p999Us), ("stddev_us", .real r.stddevUs),
    ("sample_count", .whole r.sampleCount.toNat), ("lost_rounds", .whole r.lostRounds.toNat),
    ("success", .flag r.success)]

/-- What a report tells of a transfer. -/
def throughputContent (r : ThroughputResult) : Value :=
  .object [
    ("mib_per_sec", .real r.mibPerSec), ("mbits_per_sec", .real r.mbitsPerSec),
    ("bytes_transferred", .whole r.bytesTransferred.toNat),
    ("bytes_sent", .whole r.bytesSent.toNat),
    ("duration_sec", .real r.durationSec), ("success", .flag r.success)]

theorem fits_latency (r : LatencyResult) : (Document.latency.write r).Fits := by
  refine fits_entriesOf ?_
  simp only [Document.latencyFields, List.forall_mem_cons]
  exact ⟨.real _, .real _, .real _, .real _, .real _, .real _, .real _, .real _, .real _,
    fits_ofWord _, fits_ofWord _, .flag _, nofun⟩

theorem fits_throughput (r : ThroughputResult) : (Document.throughput.write r).Fits := by
  refine fits_entriesOf ?_
  simp only [Document.throughputFields, List.forall_mem_cons]
  exact ⟨.real _, .real _, fits_ofWord _, fits_ofWord _, .real _, .flag _, nofun⟩

theorem fits_bench (b : BenchResult) : (Document.bench.write b).Fits := by
  refine fits_entriesOf ?_
  simp only [Document.benchFields, List.forall_mem_cons]
  exact ⟨fits_latency _, fits_latency _, fits_throughput _, fits_throughput _, nofun⟩

variable (moment : Time.Moment) (p : Plan) (b : BenchResult) (s : RunSummary)

theorem fits_document : (document moment p b s).Fits := by
  refine .object ?_
  simp only [List.forall_mem_cons]
  exact ⟨.text _, .text _, fits_ofWord _, .real _, .real _, fits_array_map fun _ _ => .text _,
    fits_ofWord _, fits_bench b, nofun⟩

/-- A report is a JSON text, and it is read as one object, with nothing behind it, that says under
its eight keys what the run said. -/
theorem reads_documentText :
    Grammar.IsValue (documentText moment p b s).toList ∧
      ∃ entries, Document.read (documentText moment p b s) = ⟨.object entries .closed, false⟩ ∧
        Says (.object entries .closed) (.object [
          ("version", .text Package.version),
          ("timestamp", .text moment.full),
          ("budget_ms", .whole p.budget.millisWord.toNat),
          ("slice_ms", .real s.slice.asMillis),
          ("duration_ms", .real s.total.asMillis),
          ("enabled", .array (s.enabled.map fun t => .text t.name)),
          ("successful_tests", .whole s.successful.toNat),
          ("results", .object [
            ("tcp_latency", latencyContent b.tcpLatency),
            ("udp_latency", latencyContent b.udpLatency),
            ("tcp_throughput", throughputContent b.tcpThroughput),
            ("udp_throughput", throughputContent b.udpThroughput)])]) := by
  obtain ⟨t, hread, hsays⟩ := exists_says (denotes_pretty 0 _) (fits_document moment p b s)
  obtain ⟨entries, rfl, -⟩ := says_object_iff.1 hsays
  refine ⟨?_, entries, hread, hsays⟩
  rw [documentText, Value.prettyText, String.toList_ofList]
  exact isValue_pretty 0 _

end LoopGauge.Report
