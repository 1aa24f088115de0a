import LoopGauge.Limits

/-!
# Ports for probes

Candidate ports are handed out in turn from a fixed window. The counter belongs to the process and
counts in a 64-bit word; a port is a 16-bit word.

## Main definitions

* `portOf`: the port of a count.
* `PortCounter.next`: hands out a port.
* `PortCounter.serve`: hands out ports to whoever calls.
-/

namespace LoopGauge.Engine

/-- How far into the window the port of a count lies. -/
def portOffset (count : UInt64) : UInt16 := (count % UInt64.ofNat Limits.portWindow).toUInt16

/-- The port of a count: the window is gone through again and again. -/
def portOf (count : UInt64) : Nat := (UInt16.ofNat Limits.firstPort + portOffset count).toNat

/-- How many ports have been handed out. -/
structure PortCounter where
  count : UInt64 := 0
deriving DecidableEq, Repr, Inhabited

/-- Who calls for a port. -/
inductive PortCall where
  /-- One of the allocators, which have no state of their own. -/
  | allocator (number : Nat)
  /-- Somebody without an allocator. -/
  | direct
deriving DecidableEq, Repr

namespace PortCounter

/-- The next port. -/
def next (c : PortCounter) : Nat × PortCounter := (portOf (c.count + 1), ⟨c.count + 1⟩)

/-- The answer to a call. Whoever calls, the counter is the same. -/
def answer (c : PortCounter) : PortCall → Nat × PortCounter
  | .allocator _ | .direct => c.next

/-- The ports of calls, one after the other. -/
def serve (c : PortCounter) : List PortCall → List Nat
  | [] => []
  | call :: calls => (c.answer call).1 :: (c.answer call).2.serve calls

end PortCounter

end LoopGauge.Engine
