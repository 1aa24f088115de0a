import LoopGauge.Engine.Round

/-!
# Background tasks

The other party of a measurement runs in the background: it sends every message back, or counts
the bytes that come. It looks at its stop flag between any two operations, and each of these ends
soon.

## Main definitions

* `Task`: what a background task is to do.
* `Duty`: the questions of a background task.
* `Task.serve`: the work of a task, with the number of bytes it has counted.
-/

namespace LoopGauge.Engine

/-- What a background task does with what it receives. -/
inductive Service where
  /-- Sends it back. -/
  | echo
  /-- Counts its bytes. -/
  | sink
deriving DecidableEq, Repr

/-- A background task. -/
structure Task where
  transport : Transport
  service : Service
  bufferSize : Nat
deriving DecidableEq, Repr

/-- A question of a background task. -/
inductive Duty where
  /-- Is the stop flag raised? -/
  | isStopped
  /-- Is there a client? -/
  | accept (deadline : Nat)
  /-- Small messages are to be sent at once. -/
  | disableDelay
  | wire (w : Wire)

/-- The answers to each question. -/
def Duty.Answer : Duty → Type
  | isStopped => Bool
  | accept _ => Timed Unit
  | disableDelay => Unit
  | wire w => w.Answer

/-- What a background task does. -/
abbrev Work (α : Type) : Type := Dialogue Duty Duty.Answer α

namespace Work

/-- Whether the stop flag is raised. -/
def isStopped : Work Bool := .request Duty.isStopped

def accept (deadline : Nat) : Work (Timed Unit) := .request (Duty.accept deadline)

def disableDelay : Work Unit := .request Duty.disableDelay

/-- What a party does with clock and socket, done by a background task. -/
def talk {α : Type} (t : Talk α) : Work α := t.embed .wire

/-- The end of an operation that starts now. -/
def soon : Work Nat := do
  return (← talk Talk.clock) + (Span.ofMillis Limits.pollMillis).nanos

/-- Waits for a client; there is none if the task is stopped or the server fails first. -/
def awaitClient : Nat → Work Bool
  | 0 => pure false
  | turns + 1 => do
    if ← isStopped then pure false
    else
      match ← accept (← soon) with
      | .ready () => pure true
      | .failed _ => pure false
      | .expired => awaitClient turns

/-- Sends back what a stream brings, until it closes or fails or the task is stopped. -/
def echoStream (size : Nat) : Nat → Work Unit
  | 0 => pure ()
  | turns + 1 => do
    if ← isStopped then pure ()
    else
      match ← talk (Talk.read size (← soon)) with
      | .ready data =>
        if data.size = 0 then pure ()
        else
          match ← talk (Talk.writeAll data (← soon)) with
          | .ready () => echoStream size turns
          | _ => pure ()
      | .failed _ => pure ()
      | .expired => echoStream size turns

/-- Sends every datagram back to where it came from, until the task is stopped. -/
def echoDatagrams (size : Nat) : Nat → Work Unit
  | 0 => pure ()
  | turns + 1 => do
    if ← isStopped then pure ()
    else
      match ← talk (Talk.receive size (← soon)) with
      | .ready (data, peer) =>
        let _ ← talk (Talk.send data peer)
        echoDatagrams size turns
      | _ => echoDatagrams size turns

/-- Counts the bytes of a stream, until it closes or fails or the task is stopped. -/
def countStream (size : Nat) : Nat → UInt64 → Work UInt64
  | 0, total => pure total
  | turns + 1, total => do
    if ← isStopped then pure total
    else
      match ← talk (Talk.read size (← soon)) with
      | .ready data =>
        if data.size = 0 then pure total
        else countStream size turns (total + UInt64.ofNat data.size)
      | .failed _ => pure total
      | .expired => countStream size turns total

/-- Counts the bytes of datagrams, until the task is stopped. -/
def countDatagrams (size : Nat) : Nat → UInt64 → Work UInt64
  | 0, total => pure total
  | turns + 1, total => do
    if ← isStopped then pure total
    else
      match ← talk (Talk.receive size (← soon)) with
      | .ready (data, _) => countDatagrams size turns (total + UInt64.ofNat data.size)
      | _ => countDatagrams size turns total

end Work

namespace Task

open Work in
/-- The work of a task. An echo counts nothing. -/
def serve (t : Task) : Work UInt64 :=
  match t.transport, t.service with
  | .tcp, .echo => do
    if ← awaitClient patience then
      let _ ← disableDelay
      echoStream t.bufferSize patience
    return 0
  | .tcp, .sink => do
    if ← awaitClient patience then countStream t.bufferSize patience 0 else return 0
  | .udp, .echo => do
    echoDatagrams t.bufferSize patience
    return 0
  | .udp, .sink => countDatagrams t.bufferSize patience 0

end Task

end LoopGauge.Engine
