import LoopGauge.Log.Draft
import LoopGauge.SubTest

/-!
# Events of a run

What the engine reports while it works. An event that need not worry anybody is a detail; a
sub-test that could not be set up is a warning, and an error if resources ran out.

## Main definitions

* `Event`: what the engine reports.
* `Event.draft`: the log record of an event.
-/

namespace LoopGauge.Engine

open Json Log Number

/-- The name of the logger of the engine. -/
def recorder : String := "PROBE"

/-- What the engine reports. -/
inductive Event where
  /-- The budget has been shared out. -/
  | slicePlan (total : Span) (enabled : List SubTest) (slice : Span)
  | probeStart (test : SubTest) (budget : Span) (size : UInt64)
  /-- A server got another port than the one it was to have. -/
  | portFallback (test : SubTest) (requested bound : Nat)
  | setupFailure (test : SubTest) (fault : Fault)
  /-- A round had no usable echo. -/
  | roundLost (test : SubTest) (round : Nat) (fault : Fault)
  /-- A failure ended a measurement early. -/
  | cutShort (test : SubTest) (fault : Fault)
  | latencyResult (test : SubTest) (result : LatencyResult)
  | throughputResult (test : SubTest) (result : ThroughputResult)
deriving Repr

namespace Event

/-- How serious it is that a sub-test could not be set up. -/
def setupLevel : FaultKind → Level
  | .resource | .internal => .error
  | _ => .warn

/-- A record about a sub-test. -/
def about (test : SubTest) (level : Level) (message : String)
    (fields : List (String × Value)) : Draft :=
  ({ level := level, message := message } : Draft).withFields (("test", .text test.name) :: fields)

/-- The log record of an event. -/
def draft : Event → Draft
  | slicePlan total enabled slice =>
    ({ level := .info
       message := "Running " ++ decimal enabled.length ++ " sub-tests, " ++
        slice.asMillis.fixed 1 ++ "ms each" } : Draft).withFields [
      ("total_budget_ms", .real total.asMillis),
      ("slice_ms", .real slice.asMillis),
      ("tests", .array (enabled.map fun t => .text t.name))]
  | probeStart test budget size =>
    about test .debug ("Starting " ++ test.label ++ " probe") [
      ("budget_ms", .real budget.asMillis), ("size", .ofWord size)]
  | portFallback test requested bound =>
    about test .debug ("Port " ++ decimal requested ++ " busy, " ++ test.label ++
        " server bound to " ++ decimal bound) [
      ("requested_port", .ofNat requested), ("bound_port", .ofNat bound)]
  | setupFailure test fault =>
    (about test (setupLevel fault.kind) (test.label ++ " setup failed: " ++ fault.display)
      []).withFault fault
  | roundLost test round fault =>
    about test .debug (test.label ++ " round " ++ decimal round ++ " lost: " ++ fault.display) [
      ("round", .ofNat round), ("error_category", .text fault.kind.category)]
  | cutShort test fault =>
    (about test .debug (test.label ++ " loop ended early: " ++ fault.display) []).withFault fault
  | latencyResult test r =>
    (about test .info (test.label ++ ": " ++ decimal r.sampleCount.toNat ++ " samples, median " ++
      r.medianUs.fixed 1 ++ "us, p99 " ++ r.p99Us.fixed 1 ++ "us") []).withLatency r
  | throughputResult test r =>
    (about test .info (test.label ++ ": " ++ decimal r.bytesTransferred.toNat ++ " bytes in " ++
      r.durationSec.fixed 3 ++ "s (" ++ r.mibPerSec.fixed 1 ++ " MiB/s)") []).withThroughput r

end Event

end LoopGauge.Engine
