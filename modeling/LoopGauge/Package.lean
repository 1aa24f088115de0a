/-!
# The program

The names under which the program goes, and its version.
-/

namespace LoopGauge.Package

def name : String := "loopback-bench"

/-- The name of the command. -/
def command : String := "lbench"

def version : String := "0.1.0"

def description : String :=
  "Loopback latency and throughput benchmark engine for TCP and UDP with budget-bounded probes"

/-- What is written when the version is asked for. -/
def versionLine : String := command ++ " " ++ version ++ "\n"

/-- The line that tells one build from another. -/
def buildLine : String :=
  name ++ " v" ++ version ++ " (unknown commit, built at an unknown time for an unknown target)"

end LoopGauge.Package
