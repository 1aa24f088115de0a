import LoopGauge.Transport

/-!
# Limits of the engine

The sizes, counts and times the engine works with. A requested size that is zero or above its
ceiling is never an error: the default takes its place.

## Main definitions

* `Limits.messageSize`, `Limits.bufferSize`, `Limits.sampleCap`: the value the engine uses for a
  requested one.

## Main statements

* `Limits.within_bounds`: no request leads past the bounds.
-/

namespace LoopGauge.Limits

/-- The first port of the window of probe ports. -/
def firstPort : Nat := 47000

/-- How many ports the window has. -/
def portWindow : Nat := 1000

def defaultMessageSize : UInt64 := 64
def maxTcpMessage : UInt64 := 65536

/-- The largest datagram for messages and transfers. -/
def maxDatagram : UInt64 := 65000

def defaultTcpBuffer : UInt64 := 131072
def maxTcpBuffer : UInt64 := 1048576
def defaultUdpBuffer : UInt64 := 8192

/-- The most samples a probe takes, which is also the default. -/
def maxSamples : UInt64 := 8192

/-- The time a probe waits for its background task, in milliseconds. -/
def warmupMillis : UInt64 := 5

/-- The time a transfer waits for data under way, in milliseconds. -/
def drainMillis : UInt64 := 50

/-- How long a background task waits before it looks at its stop flag, in milliseconds. -/
def pollMillis : UInt64 := 50

def connectMillis : UInt64 := 250
def tcpRoundMillis : UInt64 := 200
def udpRoundMillis : UInt64 := 100

def defaultBudgetMillis : UInt64 := 2000
def maxBudgetMillis : UInt64 := 600000

/-- The bytes at the start of a datagram that carry the round number. -/
def roundTagLength : UInt64 := 4

/-- The requested value if it lies between one and the ceiling, else the default. -/
def within (default ceiling requested : UInt64) : UInt64 :=
  if requested = 0 || ceiling < requested then default else requested

theorem within_eq (default ceiling requested : UInt64) :
    within default ceiling requested =
      if 1 ≤ requested ∧ requested ≤ ceiling then requested else default := by
  have hrefused : requested = 0 ∨ ceiling < requested ↔
      ¬(1 ≤ requested ∧ requested ≤ ceiling) := by
    rw [UInt64.le_iff_toNat_le, UInt64.le_iff_toNat_le, UInt64.lt_iff_toNat_lt, ← UInt64.toNat_inj,
      UInt64.toNat_zero, UInt64.toNat_one]
    omega
  rw [within]
  simp only [Bool.or_eq_true, decide_eq_true_eq, hrefused, ite_not]

theorem within_bounds {default ceiling : UInt64} (hdefault : 1 ≤ default ∧ default ≤ ceiling)
    (requested : UInt64) :
    1 ≤ within default ceiling requested ∧ within default ceiling requested ≤ ceiling := by
  rw [within_eq]
  split
  next hwithin => exact hwithin
  next => exact hdefault

/-- The message size of a latency probe. -/
def messageSize (t : Transport) (requested : UInt64) : UInt64 :=
  match t with
  | .tcp => within defaultMessageSize maxTcpMessage requested
  | .udp => within defaultMessageSize maxDatagram requested

/-- The size of one write or datagram of a throughput probe. -/
def bufferSize (t : Transport) (requested : UInt64) : UInt64 :=
  match t with
  | .tcp => within defaultTcpBuffer maxTcpBuffer requested
  | .udp => within defaultUdpBuffer maxDatagram requested

/-- The number of samples at which a latency probe stops. -/
def sampleCap (requested : UInt64) : UInt64 := within maxSamples maxSamples requested

end LoopGauge.Limits
