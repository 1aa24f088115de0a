/-!
# Stop flags

A stop flag is raised once and never lowered. Copies of a flag share one state.

## Main definitions

* `StopFlags`: flags and the states they share.
* `StopFlags.states`: which flags are raised.
-/

namespace LoopGauge.Engine

/-- The flags made so far: for each the number of its state, and the states. -/
structure StopFlags where
  owners : List Nat := []
  raised : List Bool := []
deriving DecidableEq, Repr, Inhabited

namespace StopFlags

/-- Makes a flag that shares with no other. -/
def create (f : StopFlags) : StopFlags := ⟨f.owners ++ [f.raised.length], f.raised ++ [false]⟩

/-- Makes a flag that shares with flag number `i`. -/
def copy (f : StopFlags) (i : Nat) : StopFlags :=
  match f.owners[i]? with
  | some owner => { f with owners := f.owners ++ [owner] }
  | none => f

/-- Raises flag number `i`. -/
def stop (f : StopFlags) (i : Nat) : StopFlags :=
  match f.owners[i]? with
  | some owner => { f with raised := f.raised.set owner true }
  | none => f

/-- Whether flag number `i` is raised. -/
def isStopped (f : StopFlags) (i : Nat) : Bool :=
  ((f.owners[i]?).bind fun owner => f.raised[owner]?).getD false

/-- The states of all flags, in the order in which they were made. -/
def states (f : StopFlags) : List Bool := (List.range f.owners.length).map f.isStopped

end StopFlags

end LoopGauge.Engine
