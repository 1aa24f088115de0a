import LoopGauge.Log.Draft
import LoopGauge.Log.Family

/-!
# Calls of loggers

A call of a logger does one or two things to the context of the logger, each at one instant.
Between the two, others may do something to the same context.

## Main definitions

* `Act`: what is done to a context at one instant.
* `Call.acts`: the acts of a call.
-/

namespace LoopGauge.Log

open Json

/-- What is done to a context at one instant. -/
inductive Act where
  | start (id : String)
  | finish (id : String)
  | setSession (id : String)
  | addField (key : String) (value : Value)
  /-- A record takes in the context and leaves it as it is. -/
  | record (d : Draft)

/-- The context after an act. -/
def Context.perform (c : Context) : Act → Context
  | .start id => c.start id
  | .finish id => c.finish id
  | .setSession id => c.withSession id
  | .addField key value => c.withField key value
  | .record _ => c

/-- A call of a logger. The start of an operation gives it an identifier. -/
inductive Call where
  | setSession (id : String)
  | addField (key : String) (value : Value)
  | startOperation (name id : String)
  | endOperation (id name : String) (success : Bool)
  | log (d : Draft)

/-- The acts of a call. The context knows of an operation before its start is recorded, and until
its end has been recorded. -/
def Call.acts : Call → List Act
  | setSession id => [.setSession id]
  | addField key value => [.addField key value]
  | startOperation name id => [.start id, .record (.operationStart name id)]
  | endOperation id name success => [.record (.operationEnd name id success), .finish id]
  | log d => [.record d]

end LoopGauge.Log
