import LoopGauge.Engine.Event
import LoopGauge.Limits
import LoopGauge.Log.Logger
import LoopGauge.Plan

/-!
# Probes

What a probe works with: its transport, the size of its messages or writes, for latency the cap on
samples, and the logger that takes note of what it reports. A requested value out of range is
replaced by the default; a probe that is given no logger has a quiet one.

## Main definitions

* `LatencyProbe`, `ThroughputProbe`: probes and how they are adjusted.
* `Probe.ofPlan`: the probe a plan asks for.
* `Orchestrator`: a plan with the logger that its probes are given.
-/

namespace LoopGauge.Engine

/-- A probe of round-trip times. -/
structure LatencyProbe where
  transport : Transport
  messageSize : UInt64
  maxSamples : UInt64
  logger : Log.Logger := .quiet recorder
deriving DecidableEq, Repr

namespace LatencyProbe

/-- The probe with the defaults of its transport. -/
def standard (t : Transport) : LatencyProbe where
  transport := t
  messageSize := Limits.messageSize t 0
  maxSamples := Limits.sampleCap 0

def withMessageSize (p : LatencyProbe) (requested : UInt64) : LatencyProbe :=
  { p with messageSize := Limits.messageSize p.transport requested }

def withMaxSamples (p : LatencyProbe) (requested : UInt64) : LatencyProbe :=
  { p with maxSamples := Limits.sampleCap requested }

def withLogger (p : LatencyProbe) (l : Log.Logger) : LatencyProbe := { p with logger := l }

/-- The sub-test that the probe makes. -/
def subTest (p : LatencyProbe) : SubTest :=
  match p.transport with
  | .tcp => .tcpLatency
  | .udp => .udpLatency

end LatencyProbe

/-- A probe of transfer rates. -/
structure ThroughputProbe where
  transport : Transport
  bufferSize : UInt64
  logger : Log.Logger := .quiet recorder
deriving DecidableEq, Repr

namespace ThroughputProbe

/-- The probe with the default of its transport. -/
def standard (t : Transport) : ThroughputProbe where
  transport := t
  bufferSize := Limits.bufferSize t 0

def withBufferSize (p : ThroughputProbe) (requested : UInt64) : ThroughputProbe :=
  { p with bufferSize := Limits.bufferSize p.transport requested }

def withLogger (p : ThroughputProbe) (l : Log.Logger) : ThroughputProbe := { p with logger := l }

/-- The sub-test that the probe makes. -/
def subTest (p : ThroughputProbe) : SubTest :=
  match p.transport with
  | .tcp => .tcpThroughput
  | .udp => .udpThroughput

end ThroughputProbe

/-- A probe of either kind. -/
inductive Probe where
  | latency (p : LatencyProbe)
  | throughput (p : ThroughputProbe)
deriving DecidableEq, Repr

namespace Probe

def subTest : Probe → SubTest
  | latency p => p.subTest
  | throughput p => p.subTest

/-- The size of a message, write or datagram. -/
def size : Probe → UInt64
  | latency p => p.messageSize
  | throughput p => p.bufferSize

/-- The logger of a probe. -/
def logger : Probe → Log.Logger
  | latency p => p.logger
  | throughput p => p.logger

/-- The probe with another logger. -/
def withLogger : Probe → Log.Logger → Probe
  | latency p, l => latency (p.withLogger l)
  | throughput p, l => throughput (p.withLogger l)

@[simp]
theorem logger_withLogger (p : Probe) (l : Log.Logger) : (p.withLogger l).logger = l := by
  cases p <;> rfl

/-- The probe for a sub-test, with requested sizes. -/
def requested (t : SubTest) (messageSize maxSamples bufferSize : UInt64) : Probe :=
  if t.isLatency then
    latency (((LatencyProbe.standard t.transport).withMessageSize messageSize).withMaxSamples
      maxSamples)
  else throughput ((ThroughputProbe.standard t.transport).withBufferSize bufferSize)

/-- The probe that a plan asks for. -/
def ofPlan (p : Plan) (t : SubTest) : Probe :=
  requested t p.messageSize p.maxSamples p.bufferSize

end Probe

/-- Who makes the run of a plan, and the logger that takes note of it. -/
structure Orchestrator where
  plan : Plan
  logger : Log.Logger := .quiet recorder
deriving DecidableEq, Repr

namespace Orchestrator

def withLogger (o : Orchestrator) (l : Log.Logger) : Orchestrator := { o with logger := l }

/-- The probe for a sub-test. It is given a copy of the logger. -/
def probeFor (o : Orchestrator) (t : SubTest) : Probe :=
  (Probe.ofPlan o.plan t).withLogger o.logger

end Orchestrator

end LoopGauge.Engine
