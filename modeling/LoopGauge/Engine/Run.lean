import LoopGauge.Engine.Latency
import LoopGauge.Engine.Throughput
import LoopGauge.RunSummary

/-!
# Runs

A run makes the enabled sub-tests of a plan one after the other, each with its share of the
budget. None of them stops the ones after it.

## Main definitions

* `Probe.measure`: the report of a probe.
* `runEach`: makes sub-tests and collects their reports.
* `Plan.conduct`: a run, whoever does its steps.
* `Plan.run`: the run of a plan.
-/

namespace LoopGauge

namespace Engine

/-- The report of a probe. -/
def Probe.measure (p : Probe) (budget : Span) : Run Report :=
  match p with
  | .latency p => Report.latency <$> p.measure budget
  | .throughput p => Report.throughput <$> p.measure budget

/-- Who takes note of a measurement makes no difference to it. -/
theorem Probe.measure_withLogger (p : Probe) (l : Log.Logger) (budget : Span) :
    (p.withLogger l).measure budget = p.measure budget := by
  cases p <;> rfl

/-- Makes sub-tests one after the other and puts each report into its slot. -/
def runEach {m : Type → Type} [Monad m] (probe : SubTest → m Report) :
    List SubTest → BenchResult → m BenchResult
  | [], b => pure b
  | t :: ts, b => do
    let report ← probe t
    runEach probe ts (b.set t report)

/-- Sub-tests whose measurements are answered are made like those that are. -/
theorem runEach_run {m : Type → Type} [Monad m] [LawfulMonad m]
    (answer : (q : Request) → m q.Answer) (probe : SubTest → Run Report) (tests : List SubTest)
    (b : BenchResult) :
    runEach (fun t => (probe t).run answer) tests b = (runEach probe tests b).run answer := by
  induction tests generalizing b with
  | nil => rfl
  | cons t tests ih =>
    rw [runEach, runEach, Dialogue.run_bind]
    exact congrArg (_ >>= ·) (funext fun report => ih _)

/-- The name of the operation that a run is. -/
def operation : String := "loopback-bench"

end Engine

namespace Plan

open Engine

/-- The summary of a run that has made sub-tests. -/
def summary (p : Plan) (slice total : Span) (b : BenchResult) : RunSummary where
  enabled := p.enabled
  slice := slice
  total := total
  successful := UInt64.ofNat b.successfulCount

/-- A run, by what is done with the steps of its own and how a sub-test is measured. If nothing is
enabled, no sub-test is. -/
def conduct {m : Type → Type} [Monad m] (own : {α : Type} → Run α → m α)
    (measure : SubTest → Span → m Report) (p : Plan) : m (BenchResult × RunSummary) := do
  let started ← own Run.clock
  match p.slice? with
  | none =>
    let ended ← own Run.clock
    return ({}, { enabled := p.enabled, total := Span.ofNanos (ended - started) })
  | some slice =>
    own (Run.report (.slicePlan p.budget p.enabled slice))
    let id ← own (Run.openOperation operation)
    let result ← runEach (measure · slice) p.enabled {}
    own (Run.closeOperation id operation result.anySuccess)
    let ended ← own Run.clock
    return (result, p.summary slice (Span.ofNanos (ended - started)) result)

/-- A run whose steps are all answered in one way is answered in that way. -/
theorem conduct_run {m : Type → Type} [Monad m] [LawfulMonad m]
    (answer : (q : Request) → m q.Answer) (measure : SubTest → Span → Run Report) (p : Plan) :
    p.conduct (fun r => r.run answer) (fun t slice => (measure t slice).run answer) =
      (p.conduct (fun r => r) measure).run answer := by
  rw [conduct, conduct, Dialogue.run_bind]
  refine congrArg (_ >>= ·) (funext fun started => ?_)
  cases p.slice? with
  | none =>
    simp only [Dialogue.run_bind]
    rfl
  | some slice =>
    simp only [Dialogue.run_bind, runEach_run]
    rfl

/-- The run of a plan. -/
def run (p : Plan) : Run (BenchResult × RunSummary) :=
  p.conduct (fun r => r) fun t slice => (Probe.ofPlan p t).measure slice

end Plan

end LoopGauge
