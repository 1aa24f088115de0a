import LoopGauge.Statistics.Summary

/-!
# Latency results

What a latency probe reports: round-trip times in microseconds.

Samples and lost rounds are counted in a word each, and their sum need not fit into one. What
becomes of such a sum is a matter of the build: one stops there, another starts again at zero.

## Main definitions

* `LatencyResult`: the round-trip figures of one transport.
* `LatencyResult.lossPercentage?`, `LatencyResult.lossPercentage`: the share of lost rounds, in a
  build that checks its sums and in one that does not.
-/

namespace LoopGauge

open Number

/-- The round-trip figures of one transport. -/
structure LatencyResult where
  minUs : Binary64 := .zero
  maxUs : Binary64 := .zero
  meanUs : Binary64 := .zero
  /-- The same as the fiftieth percentile. -/
  medianUs : Binary64 := .zero
  p90Us : Binary64 := .zero
  p95Us : Binary64 := .zero
  p99Us : Binary64 := .zero
  p999Us : Binary64 := .zero
  stddevUs : Binary64 := .zero
  sampleCount : UInt64 := 0
  /-- Rounds without an echo; always zero over TCP. -/
  lostRounds : UInt64 := 0
  success : Bool := false
deriving DecidableEq, Repr, Inhabited

namespace LatencyResult

/-- The result of a probe that could not measure. -/
def failed : LatencyResult := {}

def ofSummary (s : Statistics.Summary Binary64) (lost : UInt64) : LatencyResult where
  minUs := s.min
  maxUs := s.max
  meanUs := s.mean
  medianUs := s.p50
  p90Us := s.p90
  p95Us := s.p95
  p99Us := s.p99
  p999Us := s.p999
  stddevUs := s.stddev
  sampleCount := UInt64.ofNat s.count
  lostRounds := lost
  success := s.success

def ofSamples (samples : List Binary64) (lost : UInt64) : LatencyResult :=
  ofSummary (Statistics.ofSamples samples) lost

/-- How far the 99th percentile lies above the median. -/
def jitterUs (r : LatencyResult) : Binary64 := if r.success then r.p99Us - r.medianUs else .zero

/-- The rounds that were tried. A build that checks its sums stops where a word cannot hold them. -/
def attempted? (r : LatencyResult) : Option UInt64 :=
  if r.sampleCount.toNat + r.lostRounds.toNat < UInt64.size then some (r.sampleCount + r.lostRounds)
  else none

/-- The rounds that were tried, in a build that does not check its sums: a sum that does not fit
starts again at zero. -/
def attempted (r : LatencyResult) : UInt64 := r.sampleCount + r.lostRounds

/-- `lost / attempted * 100`, and zero when nothing was attempted. -/
def lossShare {α : Type} (A : Arithmetic α) (lost attempted : Nat) : α :=
  if attempted = 0 then A.ofNat 0
  else A.mul (A.div (A.ofNat lost) (A.ofNat attempted)) (A.ofNat 100)

/-- The percentage of rounds that were lost, unless the build stops at their sum. -/
def lossPercentage? (r : LatencyResult) : Option Binary64 :=
  r.attempted?.map fun attempted =>
    lossShare Binary64.arithmetic r.lostRounds.toNat attempted.toNat

/-- The percentage of rounds that were lost, in a build that does not check its sums. -/
def lossPercentage (r : LatencyResult) : Binary64 :=
  lossShare Binary64.arithmetic r.lostRounds.toNat r.attempted.toNat

end LatencyResult

end LoopGauge
