import LoopGauge.Dialogue
import LoopGauge.Fault
import LoopGauge.Number.Fixed
import LoopGauge.Span

/-!
# Talking over a socket

What either party of a measurement asks of the clock and of its own socket. The clock counts
nanoseconds from a start of its own and never goes back; a deadline is a reading of it.

## Main definitions

* `Address`: a host of four octets and a port.
* `Timed`: how an operation with a deadline ends.
* `Wire`: the questions to clock and socket.
* `writeAll`, `readExact`: whole messages over a stream, however it cuts them.
-/

namespace LoopGauge.Engine

open Number

/-- The address of a socket. -/
structure Address where
  host : UInt8 × UInt8 × UInt8 × UInt8
  port : UInt16
deriving DecidableEq, Repr

namespace Address

/-- A port of this very host, the only one a probe talks to. -/
def loopback (port : Nat) : Address := ⟨(127, 0, 0, 1), UInt16.ofNat port⟩

def hostText (a : Address) : String :=
  let (p, q, r, s) := a.host
  decimal p.toNat ++ "." ++ decimal q.toNat ++ "." ++ decimal r.toNat ++ "." ++ decimal s.toNat

def text (a : Address) : String := a.hostText ++ ":" ++ decimal a.port.toNat

end Address

/-- How an operation with a deadline ends. -/
inductive Timed (α : Type) where
  | ready (a : α)
  | failed (cause : String)
  | expired
deriving Repr, Inhabited

namespace Timed

/-- A reception within a limit: a failure is one of the transport, and an end without data one of
time. -/
def received {α : Type} (limit : Span) : Timed α → Except Fault α
  | ready a => .ok a
  | failed cause => .error ⟨.transport, cause⟩
  | expired => .error ⟨.timeout, "No data within " ++ limit.brief⟩

end Timed

/-- A question to the clock or to a party's own socket. -/
inductive Wire where
  /-- What does the clock say? -/
  | clock
  /-- How many of these bytes does the stream take? -/
  | write (data : ByteArray) (deadline : Nat)
  /-- Which bytes does the stream bring, so many at most? None if the peer has closed it. -/
  | read (size : Nat) (deadline : Nat)
  /-- How many bytes of this datagram are sent? -/
  | send (data : ByteArray) (peer : Address)
  /-- Which datagram has come, cut to this size, and from whom? -/
  | receive (size : Nat) (deadline : Nat)

/-- The answers to each question. -/
def Wire.Answer : Wire → Type
  | clock => Nat
  | write _ _ => Timed Nat
  | read _ _ => Timed ByteArray
  | send _ _ => Except String Nat
  | receive _ _ => Timed (ByteArray × Address)

/-- What a party does with clock and socket. -/
abbrev Talk (α : Type) : Type := Dialogue Wire Wire.Answer α

namespace Talk

/-- The reading of the clock. -/
def clock : Talk Nat := .request Wire.clock

/-- Sends a datagram. -/
def send (data : ByteArray) (peer : Address) : Talk (Except String Nat) :=
  .request (Wire.send data peer)

/-- Receives a datagram. -/
def receive (size deadline : Nat) : Talk (Timed (ByteArray × Address)) :=
  .request (Wire.receive size deadline)

/-- Reads some bytes. -/
def read (size deadline : Nat) : Talk (Timed ByteArray) := .request (Wire.read size deadline)

/-- Writes some bytes. -/
def write (data : ByteArray) (deadline : Nat) : Talk (Timed Nat) :=
  .request (Wire.write data deadline)

/-- Writes what is left of a message after the first `taken` bytes. -/
def writeFrom (message : ByteArray) (deadline : Nat) (taken : Nat) : Talk (Timed Unit) :=
  if taken < message.size then
    .ask (.write (message.extract taken message.size) deadline) fun
      | .ready 0 => .done (.failed "write zero")
      | .ready (more + 1) => writeFrom message deadline (taken + (more + 1))
      | .failed cause => .done (.failed cause)
      | .expired => .done .expired
  else .done (.ready ())
termination_by message.size - taken

/-- Writes a whole message. -/
def writeAll (message : ByteArray) (deadline : Nat) : Talk (Timed Unit) :=
  writeFrom message deadline 0

/-- Reads on until so many bytes have come, the first of which are already there. -/
def readUpTo (size : Nat) (deadline : Nat) (got : ByteArray) : Talk (Timed ByteArray) :=
  if got.size < size then
    .ask (.read (size - got.size) deadline) fun
      | .ready more =>
        if 0 < more.size then readUpTo size deadline (got ++ more)
        else .done (.failed "early eof")
      | .failed cause => .done (.failed cause)
      | .expired => .done .expired
  else .done (.ready got)
termination_by size - got.size
decreasing_by rw [ByteArray.size_append]; omega

/-- Reads exactly so many bytes. -/
def readExact (size : Nat) (deadline : Nat) : Talk (Timed ByteArray) :=
  readUpTo size deadline ByteArray.empty

end Talk

end LoopGauge.Engine
