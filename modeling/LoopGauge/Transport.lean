/-!
# Transports

The two transports a probe can run over.
-/

namespace LoopGauge

/-- The transport of a probe. -/
inductive Transport where
  | tcp
  | udp
deriving DecidableEq, Repr

namespace Transport

/-- The name in texts. -/
def name : Transport → String
  | tcp => "TCP"
  | udp => "UDP"

/-- The name in documents. -/
def key : Transport → String
  | tcp => "tcp"
  | udp => "udp"

end Transport

end LoopGauge
