import LoopGauge.Engine.Setup

/-!
# Measuring transfer rates

The client sends as fast as it can until the time is up, and the background task counts what
arrives. A write may take a part of the buffer only; the next one goes on behind it.

## Main definitions

* `Run.sendStream`, `Run.sendDatagrams`: sending until the time is up, with the bytes sent.
* `ThroughputProbe.measure`: the measurement, which always has a result.
-/

namespace LoopGauge.Engine

/-- The filler of transfers. -/
def transferFiller : UInt8 := 0xa5

/-- After so many datagrams others may go first. -/
def burst : Nat := 64

namespace Run

/-- Writes the buffer again and again, from an offset on, until the time is up. -/
def sendStream (buffer : ByteArray) (deadline : Nat) : Nat → Nat → UInt64 → Run UInt64
  | 0, _, sent => pure sent
  | turns + 1, offset, sent => do
    if deadline ≤ (← clock) then pure sent
    else
      match ← talk (Talk.write (buffer.extract offset buffer.size) deadline) with
      | .ready 0 =>
        report (.cutShort .tcpThroughput ⟨.transport, "sink closed the connection"⟩)
        pure sent
      | .ready taken =>
        sendStream buffer deadline turns ((offset + taken) % buffer.size)
          (sent + UInt64.ofNat taken)
      | .failed cause =>
        report (.cutShort .tcpThroughput ⟨.transport, cause⟩)
        pure sent
      | .expired => pure sent

/-- Sends the buffer as one datagram after the other until the time is up; `left` until a break. -/
def sendDatagrams (server : Address) (buffer : ByteArray) (deadline : Nat) :
    Nat → Nat → UInt64 → Run UInt64
  | 0, _, sent => pure sent
  | turns + 1, left, sent => do
    if deadline ≤ (← clock) then pure sent
    else
      let sent :=
        match ← talk (Talk.send buffer server) with
        | .ok taken => sent + UInt64.ofNat taken
        | .error _ => sent
      match left with
      | left + 1 => sendDatagrams server buffer deadline turns left sent
      | 0 =>
        giveWay
        sendDatagrams server buffer deadline turns (burst - 1) sent

end Run

namespace ThroughputProbe

def task (p : ThroughputProbe) : Task := ⟨p.transport, .sink, p.bufferSize.toNat⟩

/-- Sends until the time is up, then waits for what is under way: the bytes sent, and the time. -/
def transfer (p : ThroughputProbe) (budget : Span) (server : Address) : Run (UInt64 × Span) := do
  let buffer := filled p.bufferSize.toNat transferFiller
  let started ← Run.clock
  let deadline ← Run.deadlineAfter budget
  let sent ←
    match p.transport with
    | .tcp => Run.sendStream buffer deadline patience 0 0
    | .udp => Run.sendDatagrams server buffer deadline patience (burst - 1) 0
  let ended ← Run.clock
  Run.pause (Span.ofMillis Limits.drainMillis)
  return (sent, Span.ofNanos (ended - started))

/-- The measurement, unless it cannot be set up. Of a lost task nothing has arrived. -/
def attempt (p : ThroughputProbe) (budget : Span) : Attempt ThroughputResult := do
  Attempt.reserve p.bufferSize.toNat
  Attempt.reserve p.bufferSize.toNat
  let ((sent, elapsed), counted) ← Attempt.withTask p.subTest p.task (p.transfer budget)
  return .ofTransfer (counted.getD 0) sent elapsed

/-- The measurement. What could not be set up has no success. -/
def measure (p : ThroughputProbe) (budget : Span) : Run ThroughputResult := do
  Run.report (.probeStart p.subTest budget p.bufferSize)
  match ← (p.attempt budget).run with
  | .ok result =>
    Run.report (.throughputResult p.subTest result)
    return result
  | .error fault =>
    Run.report (.setupFailure p.subTest fault)
    return .failed

end ThroughputProbe

end LoopGauge.Engine
