import LoopGauge.Json.Value

/-!
# Contexts of log records

What the records of one logger and its copies have in common: the session, the operation that is
under way, and further fields.

## Main definitions

* `Context`: what records have in common.
* `Context.start`, `Context.finish`: the operation under way is the one started last.
* `Context.complete`: the fields of a record with those of the context.
-/

namespace LoopGauge.Log

open Json

/-- What the records of loggers that share it have in common. -/
structure Context where
  session : Option String := none
  /-- The operation under way. -/
  operation : Option String := none
  /-- Fields of every record, sorted by key. -/
  fields : List (String × Value) := []
deriving Repr, Inhabited

namespace Context

def withSession (c : Context) (id : String) : Context := { c with session := some id }

def withField (c : Context) (key : String) (value : Value) : Context :=
  { c with fields := insertKey key value c.fields }

/-- An operation starts, and takes the place of one under way. -/
def start (c : Context) (id : String) : Context := { c with operation := some id }

/-- An operation ends; if another one is under way, that one goes on. -/
def finish (c : Context) (id : String) : Context :=
  if c.operation = some id then { c with operation := none } else c

/-- The fields of a record with the session and the fields of the context, which win. -/
def complete (c : Context) (fields : List (String × Value)) : List (String × Value) :=
  let fields :=
    match c.session with
    | some id => insertKey "session_id" (.text id) fields
    | none => fields
  c.fields.foldl (fun fields (key, value) => insertKey key value fields) fields

end Context

end LoopGauge.Log
