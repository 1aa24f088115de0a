import LoopGauge.Engine.Host
import LoopGauge.EnvFile.Load
import LoopGauge.Log.Logger
import LoopGauge.Stream

/-!
# What a session asks for

Around a run, a session reads the env file, writes to its two streams, and needs the time of day
and identifiers that nobody else has. The events of its run become log records.

## Main definitions

* `Request`: the questions of a session.
* `Step`: what a session does.
* `Step.record`: writes a draft as a log record, if the logger wants it.
* `Step.answer`: answers a run, whose events are recorded.
-/

namespace LoopGauge.Session

/-- A question of a session. -/
inductive Request where
  /-- A question of the run to the machine. -/
  | host (h : Engine.Host)
  | write (s : Stream) (text : String)
  /-- What is the time of day? -/
  | moment
  | freshId
  /-- What is found under a path? -/
  | lookUp (path : Text.RawText)

/-- The answers to each question. -/
def Request.Answer : Request → Type
  | host h => h.Answer
  | write _ _ => Unit
  | moment => Time.Moment
  | freshId => String
  | lookUp _ => FileState

/-- What a session does. -/
abbrev Step (α : Type) : Type := Dialogue Request Request.Answer α

namespace Step

def write (s : Stream) (text : String) : Step Unit := .request (Request.write s text)

def moment : Step Time.Moment := .request Request.moment

def freshId : Step String := .request Request.freshId

def lookUp (path : Text.RawText) : Step FileState := .request (Request.lookUp path)

/-- Writes a draft as a log record, if the logger wants it. -/
def record (l : Log.Logger) (c : Log.Context) (d : Log.Draft) : Step Unit := do
  match l.write c (← moment) d with
  | some (s, line) => write s (line ++ "\n")
  | none => pure ()

/-- Answers a question of a run; the context knows the operation under way. -/
def answer (l : Log.Logger) : (q : Engine.Request) → StateT Log.Context Step q.Answer
  | .host h => fun c => .ask (.host h) fun a => .done (a, c)
  | .report e => fun c => do
    record l c e.draft
    return ((), c)
  | .openOperation name => fun c => do
    let id ← freshId
    let c := c.start id
    record l c (.operationStart name id)
    return (id, c)
  | .closeOperation id name success => fun c => do
    record l c (.operationEnd name id success)
    return ((), c.finish id)
  | .own _ => fun c => .done ((), c)

end Step

end LoopGauge.Session
