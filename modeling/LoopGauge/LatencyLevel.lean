import LoopGauge.Number.Binary64
import LoopGauge.Style.Colour

/-!
# Levels of latency

How good a round trip over the loopback interface is, and the colour that shows it.
-/

namespace LoopGauge

open Number Style

/-- Four levels of round-trip time. -/
inductive LatencyLevel where
  | excellent
  | good
  | fair
  | poor
deriving DecidableEq, Repr

namespace LatencyLevel

/-- Below 50 µs excellent, below 200 µs good, below 1 ms fair; all else, undefined too, poor. -/
def ofMicros (us : Binary64) : LatencyLevel :=
  if us.lt 50 then excellent
  else if us.lt 200 then good
  else if us.lt 1000 then fair
  else poor

def colour : LatencyLevel → Colour
  | excellent => .green
  | good => .cyan
  | fair => .yellow
  | poor => .red

def description : LatencyLevel → String
  | excellent => "Excellent"
  | good => "Good"
  | fair => "Fair"
  | poor => "Poor"

end LatencyLevel

end LoopGauge
