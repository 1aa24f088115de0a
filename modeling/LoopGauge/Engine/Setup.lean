import LoopGauge.Engine.Host
import LoopGauge.Engine.Probe

/-!
# Setting up a measurement

A measurement has a server with a background task, and a client. If the port that the server was
to have is busy, it takes another one. Once the task runs it is stopped and joined in any case.

## Main definitions

* `Attempt.openServer`: binds the server.
* `Attempt.openClient`: makes the client.
* `Run.spawn`, `Run.stopAndJoin`: the beginning and the end of a background task.
* `Attempt.withTask`: a measurement between a client and a background task.
-/

namespace LoopGauge.Engine

open Number

/-- A fault of a socket. -/
def socketFault (doing cause : String) : Fault := ⟨.socket, doing ++ ": " ++ cause⟩

namespace BindProblem

/-- Whether another port may do. -/
def isBusy : BindProblem → Bool
  | busy _ => true
  | refused _ | unregistered _ => false

/-- The fault of a server that was to be bound at a place. -/
def serverFault (t : Transport) (place : String) : BindProblem → Fault
  | busy cause | refused cause =>
    socketFault ("Failed to bind " ++ t.name ++ " server on " ++ place) cause
  | unregistered cause => socketFault ("Failed to register " ++ t.name ++ " server") cause

/-- The fault of a client for datagrams. -/
def clientFault : BindProblem → Fault
  | busy cause | refused cause => socketFault "Failed to bind UDP client" cause
  | unregistered cause => socketFault "Failed to register UDP client" cause

end BindProblem

namespace Attempt

/-- Makes sure that there is memory. -/
def reserve (bytes : Nat) : Attempt Unit :=
  orFault (fun p => (FaultSource.memory p).fault) (Run.host (.reserve bytes))

/-- Binds the server to a port, or to any if that one is busy. -/
def bindServer (t : Transport) (sink : Bool) (port : Nat) : Attempt Unit := do
  match ← step (Run.bindServer t port sink) with
  | .ok () => pure ()
  | .error p =>
    if p.isBusy && port ≠ 0 then
      orFault (·.serverFault t "ephemeral port") (Run.bindServer t 0 sink)
    else throw (p.serverFault t (Address.loopback port).text)

/-- Binds the server to the next port; its address, which is reported if the port is another one. -/
def openServer (test : SubTest) : Attempt Address := do
  let port ← step Run.nextPort
  bindServer test.transport (!test.isLatency) port
  let address ← orFault (socketFault "Failed to read bound address") Run.serverAddress
  if address.port.toNat ≠ port then
    step (Run.report (.portFallback test port address.port.toNat))
  return address

/-- Connects the client's stream. -/
def connect (server : Address) : Attempt Unit := do
  let limit := Span.ofMillis Limits.connectMillis
  match ← step (Run.connect server limit) with
  | .ready () => pure ()
  | .failed cause => throw (socketFault ("Failed to connect to TCP server " ++ server.text) cause)
  | .expired =>
    throw ⟨.socket, "Connecting to TCP server " ++ server.text ++ " timed out after " ++
      limit.brief⟩

/-- Makes the client of a sub-test. Round trips are not to wait for more data. -/
def openClient (test : SubTest) (server : Address) : Attempt Unit := do
  match test.transport with
  | .udp => orFault BindProblem.clientFault (Run.host .bindClient)
  | .tcp =>
    connect server
    if test.isLatency then
      orFault (socketFault "Failed to set TCP_NODELAY") (Run.host .disableDelay)

end Attempt

namespace Run

/-- Launches a background task and owns it. -/
def spawn (t : Task) : Run BackgroundTask := do
  launch t
  let b := BackgroundTask.ofLaunched t
  own (some b)
  return b

/-- The owner of a background task goes out of scope. -/
def drop (b : BackgroundTask) : Run Unit := do
  b.drop.forM release
  own none

/-- Stops a background task and waits for it. The owner is left without the handle, and goes out of
scope when the task has ended. -/
def stopAndJoin (b : BackgroundTask) : Run (Option UInt64) := do
  raiseStop
  let (handle, rest) := b.takeHandle
  own (some rest)
  let counted ←
    match handle with
    | some _ => join
    | none => pure none
  drop rest
  return counted

/-- The end of a budget that starts now. One that no clock can reach ends in about thirty years. -/
def deadlineAfter (budget : Span) : Run Nat := do
  let now ← clock
  let last := 9223372036854775808 * 1000000000
  let farOff := 86400 * 365 * 30 * 1000000000
  return if now + budget.nanos < last then now + budget.nanos
    else if now + farOff < last then now + farOff
    else now

end Run

namespace Attempt

/--
A measurement between a client and a background task, and what the task has counted. Whatever
happens after the task has been launched, it is stopped and joined.
-/
def withTask {α : Type} (test : SubTest) (task : Task) (measure : Address → Run α) :
    Attempt (α × Option UInt64) := do
  let server ← openServer test
  let background ← step (Run.spawn task)
  step (Run.pause (Span.ofMillis Limits.warmupMillis))
  match ← step (openClient test server).run with
  | .error fault =>
    let _ ← step (Run.stopAndJoin background)
    throw fault
  | .ok () =>
    let result ← step (measure server)
    let counted ← step (Run.stopAndJoin background)
    step Run.closeClient
    return (result, counted)

end Attempt

end LoopGauge.Engine
