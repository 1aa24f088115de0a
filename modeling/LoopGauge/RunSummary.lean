import LoopGauge.Fault
import LoopGauge.Result.Bench

/-!
# Summaries and outcomes of a run

What ran, how long it took, and how many sub-tests succeeded; and what the end of the program
makes of it.

## Main definitions

* `RunSummary`: the summary of a run.
* `Outcome`: what an invocation of the program has produced, with its exit code.
-/

namespace LoopGauge

open Number

/-- The summary of a run. -/
structure RunSummary where
  /-- The sub-tests that ran, in order. -/
  enabled : List SubTest := []
  /-- The time of each of them. -/
  slice : Span := .zero
  total : Span := .zero
  successful : UInt64 := 0
deriving DecidableEq, Repr, Inhabited

namespace RunSummary

/-- The sub-tests that ran and did not succeed. -/
def failed (s : RunSummary) : Nat := s.enabled.length - s.successful.toNat

/-- The percentage of the sub-tests that succeeded. -/
def successRate (s : RunSummary) : Binary64 :=
  if s.enabled.isEmpty then .zero
  else Binary64.ofNat s.successful.toNat / Binary64.ofNat s.enabled.length * 100

end RunSummary

/-- What an invocation has produced. -/
inductive Outcome where
  /-- A reference text. -/
  | info
  | completed (result : BenchResult) (summary : RunSummary)
deriving Repr

namespace Outcome

/-- What a run without any success amounts to. -/
def failure? : Outcome → Option Fault
  | info => none
  | completed result summary =>
    if result.anySuccess then none
    else some ⟨.testExecution, "none of " ++ decimal summary.enabled.length ++
      " enabled sub-tests produced a result"⟩

/-- Zero, unless a run had no success. -/
def exitCode (o : Outcome) : Nat := (o.failure?.map Fault.exitCode).getD 0

end Outcome

end LoopGauge
