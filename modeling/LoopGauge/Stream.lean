/-!
# Streams of a program

Where a program writes: its answer goes to standard output, all else to standard error.
-/

namespace LoopGauge

/-- One of the two streams a program writes to. -/
inductive Stream where
  | output
  | error
deriving DecidableEq, Repr

end LoopGauge
