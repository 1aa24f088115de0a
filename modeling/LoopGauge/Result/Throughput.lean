import LoopGauge.Span

/-!
# Throughput results

What a throughput probe reports: bytes handed over, bytes that arrived, and the rates.
-/

namespace LoopGauge

open Number

/-- The transfer figures of one transport. -/
structure ThroughputResult where
  mibPerSec : Binary64 := .zero
  mbitsPerSec : Binary64 := .zero
  /-- Bytes counted where they arrive. -/
  bytesTransferred : UInt64 := 0
  /-- Bytes handed to the network. -/
  bytesSent : UInt64 := 0
  durationSec : Binary64 := .zero
  success : Bool := false
deriving DecidableEq, Repr, Inhabited

namespace ThroughputResult

/-- The result of a probe that could not measure. -/
def failed : ThroughputResult := {}

/-- The rates of a transfer, from the bytes that arrived and the time spent on sending. -/
def ofTransfer (transferred sent : UInt64) (elapsed : Span) : ThroughputResult :=
  let seconds := elapsed.asSeconds
  let timed := Binary64.zero.lt seconds
  let bytes := Binary64.ofNat transferred.toNat
  { mibPerSec := if timed then bytes / Binary64.ofNat (1024 * 1024) / seconds else .zero
    mbitsPerSec := if timed then bytes * 8 / Binary64.ofNat 1000000 / seconds else .zero
    bytesTransferred := transferred
    bytesSent := sent
    durationSec := seconds
    success := timed && 0 < transferred }

/-- The share of the sent bytes that arrived. -/
def deliveryRatio (r : ThroughputResult) : Binary64 :=
  if r.bytesSent = 0 then .zero
  else Binary64.ofNat r.bytesTransferred.toNat / Binary64.ofNat r.bytesSent.toNat

end ThroughputResult

end LoopGauge
