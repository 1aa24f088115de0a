import LoopGauge.Settings.Basic

/-!
# Plans of a run

What the engine is told: the budget, the requested sizes, and which sub-tests are enabled. The
budget is shared evenly by the enabled sub-tests.

## Main definitions

* `Plan`: the instructions for one run.
* `Plan.enabled`: the enabled sub-tests in the order of execution.
* `Plan.slice?`: the time of each.
-/

namespace LoopGauge

/-- The instructions for a run. -/
structure Plan where
  budget : Span
  messageSize : UInt64
  /-- Zero leaves the size to the transport. -/
  bufferSize : UInt64
  maxSamples : UInt64
  tcpLatency : Bool
  udpLatency : Bool
  tcpThroughput : Bool
  udpThroughput : Bool
deriving DecidableEq, Repr

namespace Plan

/-- All sub-tests with default sizes. -/
def withBudget (budget : Span) : Plan where
  budget := budget
  messageSize := Limits.defaultMessageSize
  bufferSize := 0
  maxSamples := Limits.maxSamples
  tcpLatency := true
  udpLatency := true
  tcpThroughput := true
  udpThroughput := true

/-- The default budget. -/
def standard : Plan := withBudget (Span.ofMillis Limits.defaultBudgetMillis)

/-- Whether a sub-test is to run. -/
def isEnabled (p : Plan) : SubTest → Bool
  | .tcpLatency => p.tcpLatency
  | .udpLatency => p.udpLatency
  | .tcpThroughput => p.tcpThroughput
  | .udpThroughput => p.udpThroughput

/-- Switches one sub-test on or off. -/
def setEnabled (p : Plan) (t : SubTest) (on : Bool) : Plan :=
  match t with
  | .tcpLatency => { p with tcpLatency := on }
  | .udpLatency => { p with udpLatency := on }
  | .tcpThroughput => { p with tcpThroughput := on }
  | .udpThroughput => { p with udpThroughput := on }

/-- Only the listed sub-tests, with default sizes: each sub-test is switched. -/
def withOnly (budget : Span) (tests : List SubTest) : Plan :=
  SubTest.all.foldl (fun p t => p.setEnabled t (tests.contains t)) (withBudget budget)

/-- The plan that settings ask for. -/
def ofSettings (s : Settings) : Plan where
  budget := s.budget
  messageSize := s.messageSize
  bufferSize := s.bufferSize
  maxSamples := s.maxSamples
  tcpLatency := s.tests.contains .tcpLatency
  udpLatency := s.tests.contains .udpLatency
  tcpThroughput := s.tests.contains .tcpThroughput
  udpThroughput := s.tests.contains .udpThroughput

theorem isEnabled_setEnabled (p : Plan) (t u : SubTest) (on : Bool) :
    (p.setEnabled t on).isEnabled u = if u = t then on else p.isEnabled u := by
  cases t <;> cases u <;> rfl

/-- Both ways to make a plan for listed sub-tests enable those that are listed. -/
theorem isEnabled_withOnly (budget : Span) (tests : List SubTest) (t : SubTest) :
    (withOnly budget tests).isEnabled t = tests.contains t := by
  cases t <;> rfl

theorem isEnabled_ofSettings (s : Settings) (t : SubTest) :
    (ofSettings s).isEnabled t = s.tests.contains t := by
  cases t <;> rfl

/-- The enabled sub-tests in the order of execution. -/
def enabled (p : Plan) : List SubTest := SubTest.all.filter p.isEnabled

/-- The time of each enabled sub-test; the rest of the division is not used. -/
def slice? (p : Plan) : Option Span :=
  match p.enabled.length with
  | 0 => none
  | count => some (p.budget.divide count)

end Plan

end LoopGauge
