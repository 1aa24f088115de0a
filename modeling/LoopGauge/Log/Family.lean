import LoopGauge.Log.Logger

/-!
# Families of loggers

A copy of a logger takes its decisions along and shares its context: what one of them adds to the
context, the records of all show.

## Main definitions

* `Loggers`: loggers and the contexts they share.
* `Loggers.copy`: adds a copy.
* `Loggers.write`: what a logger writes of a draft.
-/

namespace LoopGauge.Log

/-- Loggers, for each the number of its context, and the contexts. -/
structure Loggers where
  members : List (Logger × Nat) := []
  contexts : List Context := []
deriving Repr, Inhabited

namespace Loggers

/-- Adds a logger with a context of its own. -/
def add (ls : Loggers) (l : Logger) (c : Context) : Loggers :=
  ⟨ls.members ++ [(l, ls.contexts.length)], ls.contexts ++ [c]⟩

/-- Adds a copy of logger number `i`. -/
def copy (ls : Loggers) (i : Nat) : Loggers :=
  match ls.members[i]? with
  | some member => { ls with members := ls.members ++ [member] }
  | none => ls

/-- Changes the decisions of logger number `i`. -/
def adjust (ls : Loggers) (i : Nat) (f : Logger → Logger) : Loggers :=
  { ls with members := ls.members.modify i fun (l, c) => (f l, c) }

/-- Changes the context of logger number `i`. -/
def revise (ls : Loggers) (i : Nat) (f : Context → Context) : Loggers :=
  match ls.members[i]? with
  | some (_, c) => { ls with contexts := ls.contexts.modify c f }
  | none => ls

/-- Logger number `i`. -/
def logger? (ls : Loggers) (i : Nat) : Option Logger := (ls.members[i]?).map (·.1)

/-- The context of logger number `i`. -/
def context? (ls : Loggers) (i : Nat) : Option Context :=
  (ls.members[i]?).bind fun (_, c) => ls.contexts[c]?

/-- What logger number `i` writes of a draft. -/
def write (ls : Loggers) (i : Nat) (moment : Time.Moment) (d : Draft) :
    Option (Stream × String) := do
  let l ← ls.logger? i
  let c ← ls.context? i
  l.write c moment d

end Loggers

end LoopGauge.Log
