import LoopGauge.Engine.Ports
import LoopGauge.Session.Request
import Std.Async.TCP
import Std.Async.Timer
import Std.Async.UDP

/-!
# The machine at hand

Answers the questions of a session with the clock, the files and the sockets of the machine on
which the program runs. Nothing is decided here.

## Main definitions

* `Online`: the sockets and the background task of a run.
* `Online.answer`: the answers of the machine.
-/

namespace LoopGauge.Machine

open Std.Async Std.Net

/-- A socket. -/
inductive Endpoint where
  | absent
  | listener (s : TCP.Socket.Server)
  | stream (s : TCP.Socket.Client)
  | datagrams (s : UDP.Socket)

/-- The sockets of a run, and its background task with the stop flag. -/
structure Online where
  ports : IO.Ref Engine.PortCounter
  server : IO.Ref Endpoint
  client : IO.Ref Endpoint
  flag : IO.Ref Bool
  task : IO.Ref (Option (Task (Except IO.Error UInt64)))

namespace Online

def noSocket : String := "there is no such socket"

def ofAddress (a : Engine.Address) : SocketAddress :=
  let (p, q, r, s) := a.host
  .v4 ⟨.ofParts p q r s, a.port⟩

def toAddress : SocketAddress → Engine.Address
  | .v4 a => ⟨(a.addr.octets[0], a.addr.octets[1], a.addr.octets[2], a.addr.octets[3]), a.port⟩
  | .v6 _ => .loopback 0

/-- Waits for something until a deadline. -/
def within {α : Type} (selector : Selector α) (deadline : Nat) : IO (Engine.Timed α) := do
  let now ← IO.monoNanosNow
  let millis := (deadline - now + 999999) / 1000000
  try
    Async.block do
      let alarm ← Selector.sleep (Std.Time.Millisecond.Offset.ofNat millis)
      Selectable.one #[
        .case selector fun a => pure (Engine.Timed.ready a),
        .case alarm fun _ => pure Engine.Timed.expired]
  catch e => return .failed (toString e)

/-- What comes of an action: the cause if it fails. -/
def attempt {α : Type} (act : IO α) : IO (Except String α) := do
  try return .ok (← act) catch e => return .error (toString e)

def answerWire (endpoint : Endpoint) : (w : Engine.Wire) → IO w.Answer
  | .clock => IO.monoNanosNow
  | .write data _ => do
    match endpoint with
    | .stream s =>
      match ← attempt (s.send data).block with
      | .ok () => return .ready data.size
      | .error cause => return .failed cause
    | _ => return .failed noSocket
  | .read size deadline => do
    match endpoint with
    | .stream s =>
      match ← within (s.recvSelector size.toUInt64) deadline with
      | .ready data => return .ready (data.getD ByteArray.empty)
      | .failed cause => return .failed cause
      | .expired => return .expired
    | _ => return .failed noSocket
  | .send data peer => do
    match endpoint with
    | .datagrams s =>
      match ← attempt (s.send data (some (ofAddress peer))).block with
      | .ok () => return .ok data.size
      | .error cause => return .error cause
    | _ => return .error noSocket
  | .receive size deadline => do
    match endpoint with
    | .datagrams s =>
      match ← within (s.recvSelector size.toUInt64) deadline with
      | .ready (data, peer) => return .ready (data, (peer.map toAddress).getD (.loopback 0))
      | .failed cause => return .failed cause
      | .expired => return .expired
    | _ => return .failed noSocket

/-- The answers to a background task. -/
def answerDuty (flag : IO.Ref Bool) (endpoint : IO.Ref Endpoint) : (d : Engine.Duty) → IO d.Answer
  | .isStopped => flag.get
  | .accept deadline => do
    match ← endpoint.get with
    | .listener s =>
      match ← within s.acceptSelector deadline with
      | .ready client =>
        endpoint.set (.stream client)
        return .ready ()
      | .failed cause => return .failed cause
      | .expired => return .expired
    | _ => return .failed noSocket
  | .disableDelay => do
    match ← endpoint.get with
    | .stream s => let _ ← attempt s.noDelay
    | _ => pure ()
  | .wire w => do answerWire (← endpoint.get) w

/-- Binds a server. -/
def bind (transport : Transport) (address : SocketAddress) : IO Endpoint := do
  match transport with
  | .tcp =>
    let s ← TCP.Socket.Server.mk
    s.bind address
    s.listen 16
    return .listener s
  | .udp =>
    let s ← UDP.Socket.mk
    s.bind address
    return .datagrams s

/-- What comes of binding a socket. -/
def bound (place : IO.Ref Endpoint) (transport : Transport) (port : Nat) :
    IO (Except Engine.BindProblem Unit) := do
  try
    place.set (← bind transport (ofAddress (.loopback port)))
    return .ok ()
  catch
    | .resourceBusy _ details => return .error (.busy details)
    | e => return .error (.refused (toString e))

/-- The answers to a run. -/
def answerHost (m : Online) : (h : Engine.Host) → IO h.Answer
  | .wire w => do answerWire (← m.client.get) w
  | .pause s => IO.sleep (s.nanos / 1000000).toUInt32
  | .giveWay => pure ()
  | .reserve _ => return .ok ()
  | .nextPort => m.ports.modifyGet fun c => c.next
  | .bindServer transport port _ => bound m.server transport port
  | .serverAddress => do
    let name : IO SocketAddress :=
      match ← m.server.get with
      | .listener s => s.getSockName
      | .datagrams s => s.getSockName
      | _ => throw (.userError noSocket)
    return (← attempt name).map toAddress
  | .launch task => do
    let endpoint ← IO.mkRef (← m.server.get)
    m.server.set .absent
    m.flag.set false
    let work := task.serve.run (answerDuty m.flag endpoint)
    m.task.set (some (← IO.asTask work Task.Priority.dedicated))
  | .raiseStop => m.flag.set true
  | .abort => do
    if let some t ← m.task.get then IO.cancel t
    m.task.set none
  | .join => do
    match ← m.task.get with
    | some t =>
      m.task.set none
      match ← IO.wait t with
      | .ok count => return some count
      | .error _ => return none
    | none => return none
  | .connect server limit => do
    let s ← TCP.Socket.Client.mk
    m.client.set (.stream s)
    let connecting : Async (Engine.Timed Unit) := do
      s.connect (ofAddress server)
      return .ready ()
    let waiting : Async (Engine.Timed Unit) := do
      sleep (Std.Time.Millisecond.Offset.ofNat (limit.nanos / 1000000))
      return .expired
    match ← attempt (Async.race connecting waiting).block with
    | .ok result => return result
    | .error cause => return .failed cause
  | .disableDelay => do
    match ← m.client.get with
    | .stream s => attempt s.noDelay
    | _ => return .error noSocket
  | .bindClient => bound m.client .udp 0
  | .closeClient => m.client.set .absent

/-- A random identifier. -/
def randomId : IO String := do
  let bytes ← IO.getRandomBytes 16
  let hex (b : UInt8) : List Char := [Nat.digitChar (b.toNat / 16), Nat.digitChar (b.toNat % 16)]
  let fixed := (List.range 16).map fun i =>
    let b := bytes.data.getD i 0
    hex (if i = 6 then b % 16 + 64 else if i = 8 then b % 64 + 128 else b)
  let part (first count : Nat) : String := String.ofList ((fixed.drop first).take count).flatten
  return part 0 4 ++ "-" ++ part 4 2 ++ "-" ++ part 6 2 ++ "-" ++ part 8 2 ++ "-" ++ part 10 6

/-- What is found under a path. -/
def find (path : Text.RawText) : IO FileState := do
  match path.text? with
  | none => return .missing
  | some path =>
    try return .file (.ofBytes (← IO.FS.readBinFile path).data.toList)
    catch
      | .inappropriateType .. => return .directory
      | _ => return .missing

/-- The answers to a session. -/
def answer (m : Online) : (q : Session.Request) → IO q.Answer
  | .host h => m.answerHost h
  | .write .output text => do
    let out ← IO.getStdout
    out.putStr text
    out.flush
  | .write .error text => do (← IO.getStderr).putStr text
  | .moment => do
    let t ← Std.Time.Timestamp.now
    let nanos := t.toNanosecondsSinceUnixEpoch.val
    return ⟨nanos / 1000000000, (nanos % 1000000000).toNat⟩
  | .freshId => randomId
  | .lookUp path => find path

/-- A machine at the start of the program. -/
def new : IO Online :=
  return ⟨← IO.mkRef {}, ← IO.mkRef .absent, ← IO.mkRef .absent, ← IO.mkRef false, ← IO.mkRef none⟩

end Online

end LoopGauge.Machine
