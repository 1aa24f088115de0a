import LoopGauge.Engine.Event
import LoopGauge.Engine.Release
import LoopGauge.Fault.Source
import LoopGauge.Transport

/-!
# What a run asks for

A run asks the machine for time, memory, ports and sockets, and whoever started it to take note of
events and of what the run owns. A probe has one server, one client and one background task at a
time, so questions about them need no names. A run may be given up where it waits for an answer.

## Main definitions

* `Host`: the questions to the machine.
* `Request`: all questions of a run.
* `Request.awaits`: the questions at which a run may be given up.
* `Run`: what a run does.
-/

namespace LoopGauge.Engine

/-- Why a socket cannot be bound. -/
inductive BindProblem where
  /-- Somebody else has the port. -/
  | busy (cause : String)
  | refused (cause : String)
  /-- The socket is bound but cannot be waited for. -/
  | unregistered (cause : String)
deriving DecidableEq, Repr

/-- A question to the machine. -/
inductive Host where
  /-- A question to the clock or to the client's socket. -/
  | wire (w : Wire)
  | pause (s : Span)
  /-- Others may go first. -/
  | giveWay
  /-- Is there memory for so many bytes? -/
  | reserve (bytes : Nat)
  /-- Which port is next? -/
  | nextPort
  /-- Bind the server to a port of this host, zero for any, with room for bursts if it is a sink. -/
  | bindServer (transport : Transport) (port : Nat) (sink : Bool)
  | serverAddress
  /-- Give the server to a background task, with a new stop flag. -/
  | launch (task : Task)
  | raiseStop
  /-- End the background task at once. -/
  | abort
  /-- Wait for the background task: what has it counted? Nothing is known of a lost task. -/
  | join
  /-- Connect the client's stream. -/
  | connect (server : Address) (limit : Span)
  /-- Small messages of the client are to be sent at once. -/
  | disableDelay
  /-- Bind the client's datagram socket. -/
  | bindClient
  | closeClient

/-- The answers to each question. -/
def Host.Answer : Host → Type
  | wire w => w.Answer
  | reserve _ => Except MemoryProblem Unit
  | nextPort => Nat
  | bindServer _ _ _ => Except BindProblem Unit
  | serverAddress => Except String Address
  | join => Option UInt64
  | connect _ _ => Timed Unit
  | disableDelay => Except String Unit
  | bindClient => Except BindProblem Unit
  | pause _ | giveWay | launch _ | raiseStop | abort | closeClient => Unit

/-- A question of a run. -/
inductive Request where
  | host (h : Host)
  | report (e : Event)
  /-- An operation starts: under which identifier? -/
  | openOperation (name : String)
  | closeOperation (id name : String) (success : Bool)
  /-- This is what the run owns from now on. -/
  | own (owned : Option BackgroundTask)

/-- The answers to each question. -/
def Request.Answer : Request → Type
  | host h => h.Answer
  | openOperation _ => String
  | report _ | closeOperation _ _ _ | own _ => Unit

/-- Whether the answer is waited for. The clock is read at once. -/
def Wire.awaits : Wire → Bool
  | clock => false
  | write _ _ | read _ _ | send _ _ | receive _ _ => true

/-- Whether the answer is waited for. Whatever does not take time is done at once. -/
def Host.awaits : Host → Bool
  | wire w => w.awaits
  | pause _ | giveWay | join | connect _ _ => true
  | reserve _ | nextPort | bindServer _ _ _ | serverAddress | launch _ | raiseStop | abort
  | disableDelay | bindClient | closeClient => false

/-- Whether the answer is waited for, so that the run may be given up instead. -/
def Request.awaits : Request → Bool
  | host h => h.awaits
  | report _ | openOperation _ | closeOperation _ _ _ => true
  | own _ => false

/-- What a run does. -/
abbrev Run (α : Type) : Type := Dialogue Request Request.Answer α

namespace Run

/-- A question to the machine. -/
def host (h : Host) : Run h.Answer := .request (Request.host h)

/-- What a party does with clock and socket, done by the client of a run. -/
def talk {α : Type} (t : Talk α) : Run α := t.embed fun w => .host (.wire w)

def clock : Run Nat := talk Talk.clock

def pause (s : Span) : Run Unit := host (.pause s)

def giveWay : Run Unit := host .giveWay

def nextPort : Run Nat := host .nextPort

def bindServer (t : Transport) (port : Nat) (sink : Bool) : Run (Except BindProblem Unit) :=
  host (.bindServer t port sink)

def connect (server : Address) (limit : Span) : Run (Timed Unit) := host (.connect server limit)

def serverAddress : Run (Except String Address) := host .serverAddress

def launch (t : Task) : Run Unit := host (.launch t)

def raiseStop : Run Unit := host .raiseStop

def join : Run (Option UInt64) := host .join

/-- Does something about the background task. -/
def release : Release → Run Unit
  | .raiseStop => raiseStop
  | .abort => host .abort

def closeClient : Run Unit := host .closeClient

/-- Reports an event. -/
def report (e : Event) : Run Unit := .request (Request.report e)

def openOperation (name : String) : Run String := .request (Request.openOperation name)

def closeOperation (id name : String) (success : Bool) : Run Unit :=
  .request (Request.closeOperation id name success)

def own (owned : Option BackgroundTask) : Run Unit := .request (Request.own owned)

end Run

/-- What a run does unless a fault ends it. -/
abbrev Attempt (α : Type) : Type := ExceptT Fault Run α

namespace Attempt

/-- A step that cannot fail. -/
def step {α : Type} (r : Run α) : Attempt α := ExceptT.lift r

/-- A step that may fail, with the faults of its failures. -/
def orFault {ε α : Type} (fault : ε → Fault) (r : Run (Except ε α)) : Attempt α :=
  ExceptT.mk (Except.mapError fault <$> r)

end Attempt

end LoopGauge.Engine
