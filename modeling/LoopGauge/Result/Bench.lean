import LoopGauge.Result.Latency
import LoopGauge.Result.Throughput
import LoopGauge.SubTest

/-!
# Results of a run

One slot per sub-test. A slot takes a report of its own kind only.

## Main definitions

* `Report`: what one probe hands in.
* `BenchResult`: the four slots, with `get` and `set`.
-/

namespace LoopGauge

/-- What one probe hands in. -/
inductive Report where
  | latency (r : LatencyResult)
  | throughput (r : ThroughputResult)
deriving DecidableEq, Repr

def Report.success : Report → Bool
  | .latency r => r.success
  | .throughput r => r.success

/-- Whether the report is of the kind that the sub-test makes. -/
def Report.fits (t : SubTest) : Report → Bool
  | .latency _ => t.isLatency
  | .throughput _ => !t.isLatency

/-- The four results of a run. -/
structure BenchResult where
  tcpLatency : LatencyResult := {}
  udpLatency : LatencyResult := {}
  tcpThroughput : ThroughputResult := {}
  udpThroughput : ThroughputResult := {}
deriving DecidableEq, Repr, Inhabited

namespace BenchResult

/-- The result of one sub-test. -/
def get (b : BenchResult) : SubTest → Report
  | .tcpLatency => .latency b.tcpLatency
  | .udpLatency => .latency b.udpLatency
  | .tcpThroughput => .throughput b.tcpThroughput
  | .udpThroughput => .throughput b.udpThroughput

/-- Puts a report into the slot of a sub-test; one of the wrong kind is dropped. -/
def set (b : BenchResult) (t : SubTest) (r : Report) : BenchResult :=
  match t, r with
  | .tcpLatency, .latency l => { b with tcpLatency := l }
  | .udpLatency, .latency l => { b with udpLatency := l }
  | .tcpThroughput, .throughput p => { b with tcpThroughput := p }
  | .udpThroughput, .throughput p => { b with udpThroughput := p }
  | _, _ => b

/-- Whether a sub-test succeeded. -/
def successOf (b : BenchResult) : SubTest → Bool
  | .tcpLatency => b.tcpLatency.success
  | .udpLatency => b.udpLatency.success
  | .tcpThroughput => b.tcpThroughput.success
  | .udpThroughput => b.udpThroughput.success

def anySuccess (b : BenchResult) : Bool := SubTest.all.any b.successOf

def allSuccess (b : BenchResult) : Bool := SubTest.all.all b.successOf

/-- Whether every listed sub-test succeeded; not so for an empty list. -/
def allSuccessOf (b : BenchResult) (tests : List SubTest) : Bool :=
  !tests.isEmpty && tests.all b.successOf

def successfulCount (b : BenchResult) : Nat := SubTest.all.countP b.successOf

end BenchResult

end LoopGauge
