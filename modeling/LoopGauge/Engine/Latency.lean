import LoopGauge.Engine.Setup

/-!
# Measuring round-trip times

Rounds are made one after the other until there are enough samples or the time is up. A failed
round over a stream ends the measurement, since the stream may be out of step; a lost datagram
only counts as lost.

## Main definitions

* `Rounds`: what the rounds so far have brought.
* `Run.streamRounds`, `Run.datagramRounds`: all rounds of a measurement.
* `LatencyProbe.measure`: the measurement, which always has a result.
-/

namespace LoopGauge.Engine

open Number

/-- What the rounds so far have brought: times in microseconds, and how many were lost. -/
structure Rounds where
  samples : Array Binary64 := #[]
  lost : Nat := 0
deriving Repr, Inhabited

namespace Rounds

/-- A round with its echo. -/
def echoed (r : Rounds) (us : Binary64) : Rounds := { r with samples := r.samples.push us }

/-- A round without. -/
def missed (r : Rounds) : Rounds := { r with lost := r.lost + 1 }

def result (r : Rounds) : LatencyResult :=
  .ofSamples r.samples.toList (UInt64.ofNat r.lost)

end Rounds

/-- The microseconds between two readings of the clock. -/
def microsBetween (started ended : Nat) : Binary64 :=
  (Span.ofNanos (ended - started)).asSeconds * Binary64.ofNat 1000000

namespace Run

/-- Rounds over a stream until there is no room for a sample, the time is up, or a round fails. -/
def streamRounds (message : ByteArray) (deadline : Nat) : Nat → Rounds → Run Rounds
  | 0, rounds => pure rounds
  | room + 1, rounds => do
    if deadline ≤ (← clock) then pure rounds
    else
      let limit := Span.ofMillis Limits.tcpRoundMillis
      let started ← clock
      match ← talk (Talk.streamRound message (started + limit.nanos)) with
      | .ready _ =>
        let ended ← clock
        streamRounds message deadline room (rounds.echoed (microsBetween started ended))
      | .failed cause =>
        report (.cutShort .tcpLatency ⟨.transport, cause⟩)
        pure rounds
      | .expired =>
        report (.cutShort .tcpLatency (noEcho limit))
        pure rounds

/-- Rounds with datagrams until there are enough samples or the time is up; the next is `round`. -/
def datagramRounds (server : Address) (size cap deadline : Nat) :
    Nat → Nat → Rounds → Run Rounds
  | 0, _, rounds => pure rounds
  | turns + 1, round, rounds => do
    if cap ≤ rounds.samples.size then pure rounds
    else if deadline ≤ (← clock) then pure rounds
    else
      let started ← clock
      match ← talk (Talk.datagramRound server (Message.ofRound size round)) with
      | .ok () =>
        let ended ← clock
        datagramRounds server size cap deadline turns (round + 1)
          (rounds.echoed (microsBetween started ended))
      | .error fault =>
        report (.roundLost .udpLatency round fault)
        datagramRounds server size cap deadline turns (round + 1) rounds.missed

end Run

namespace LatencyProbe

def task (p : LatencyProbe) : Task := ⟨p.transport, .echo, p.messageSize.toNat⟩

/-- All rounds of the probe. -/
def rounds (p : LatencyProbe) (budget : Span) (server : Address) : Run Rounds := do
  let size := p.messageSize.toNat
  let cap := p.maxSamples.toNat
  let deadline ← Run.deadlineAfter budget
  match p.transport with
  | .tcp => Run.streamRounds (filled size messageFiller) deadline cap {}
  | .udp => Run.datagramRounds server size cap deadline patience 1 {}

/-- The measurement, unless it cannot be set up. -/
def attempt (p : LatencyProbe) (budget : Span) : Attempt LatencyResult := do
  Attempt.reserve (8 * p.maxSamples.toNat)
  Attempt.reserve p.messageSize.toNat
  Attempt.reserve p.messageSize.toNat
  Attempt.reserve p.messageSize.toNat
  let (rounds, _) ← Attempt.withTask p.subTest p.task (p.rounds budget)
  return rounds.result

/-- The measurement. What could not be set up has no success. -/
def measure (p : LatencyProbe) (budget : Span) : Run LatencyResult := do
  Run.report (.probeStart p.subTest budget p.messageSize)
  match ← (p.attempt budget).run with
  | .ok result =>
    Run.report (.latencyResult p.subTest result)
    return result
  | .error fault =>
    Run.report (.setupFailure p.subTest fault)
    return .failed

end LatencyProbe

end LoopGauge.Engine
