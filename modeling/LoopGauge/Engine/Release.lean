import LoopGauge.Engine.Service

/-!
# What owns a background task

Whoever has launched a background task owns it, with its stop flag and, until its end is waited for,
a handle on it. If the owner goes out of scope the flag is raised. A task on which there is still a
handle is aborted then; one without a handle is left to itself and has to see the flag.

## Main definitions

* `BackgroundTask`: what owns a background task.
* `BackgroundTask.drop`: what is done when the owner goes out of scope.
* `abandon`: what is done when a run is given up.
-/

namespace LoopGauge.Engine

/-- What can be done about a task from outside. -/
inductive Release where
  | raiseStop
  | abort
deriving DecidableEq, Repr

/-- What owns a background task. -/
structure BackgroundTask where
  /-- The handle on the task, until somebody takes it. -/
  handle : Option Task
deriving DecidableEq, Repr

namespace BackgroundTask

/-- The owner of a task that has just been launched. -/
def ofLaunched (t : Task) : BackgroundTask := ⟨some t⟩

/-- Takes the handle. -/
def takeHandle (b : BackgroundTask) : Option Task × BackgroundTask :=
  (b.handle, { b with handle := none })

/-- What is done when the owner goes out of scope. -/
def drop (b : BackgroundTask) : List Release :=
  .raiseStop ::
    match b.takeHandle.1 with
    | some _ => [.abort]
    | none => []

end BackgroundTask

/-- What is done when a run is given up: all that it owns goes out of scope. -/
def abandon (owned : Option BackgroundTask) : List Release := (owned.map BackgroundTask.drop).getD []

end LoopGauge.Engine
