import LoopGauge.Engine.Ports
import LoopGauge.Session.Request

/-!
# A machine without a network

A model of a machine whose loopback interface is down: sockets can be bound, but nothing can be
sent or connected. It answers every question of a session without side effects, so a whole session
is a function of its files. Its clock goes on with every reading, and ever faster until somebody
pauses, so that every deadline comes after few readings.

## Main definitions

* `Offline`: the state of the machine.
* `Offline.answerRun`, `Offline.answerSession`: its answers.
* `Offline.giveUp`: what is done when a run is not over in time.
-/

namespace LoopGauge.Machine

open Number

/-- The state of a machine whose loopback interface is down. -/
structure Offline where
  /-- What the clock has shown last. -/
  now : Nat := 0
  /-- How far the clock goes on until the next reading. -/
  stride : Nat := 1000
  ports : Engine.PortCounter := {}
  /-- Whether the next port that is asked for by its number is busy. -/
  busy : Bool := false
  server : Engine.Address := .loopback 0
  /-- How many identifiers have been given out. -/
  ids : Nat := 0
  lookUp : Text.RawText → FileState := fun _ => .missing
  output : Array String := #[]
  error : Array String := #[]

namespace Offline

/-- What the system says of a network that cannot be reached, and of a port that is taken. -/
def unreachable : String := "Network is unreachable (os error 101)"
def portTaken : String := "Address already in use (os error 98)"

/-- The port of a socket that may have any. -/
def anyPort : Nat := 40000

/-- The time of all records. -/
def moment : Time.Moment := ⟨0, 0⟩

/-- Identifiers that differ in their first eight digits. -/
def nthId (n : Nat) : String :=
  String.ofList (((List.range 8).reverse.map fun i => Nat.digitChar (n / Nat.pow 16 i % 16))) ++
    "-0000-4000-8000-000000000000"

def answerWire : (w : Engine.Wire) → StateM Offline w.Answer
  | .clock => fun m =>
    let now := m.now + m.stride
    (now, { m with now := now, stride := 2 * m.stride })
  | .write _ _ => fun m => (.failed unreachable, m)
  | .read _ _ => fun m => (.failed unreachable, m)
  | .send _ _ => fun m => (.error unreachable, m)
  | .receive _ deadline => fun m => (.expired, { m with now := max m.now deadline })

def answerHost : (h : Engine.Host) → StateM Offline h.Answer
  | .wire w => answerWire w
  | .pause s => fun m => ((), { m with now := m.now + s.nanos, stride := 1000 })
  | .nextPort => fun m => (m.ports.next.1, { m with ports := m.ports.next.2 })
  | .bindServer _ port _ => fun m =>
    if m.busy && port ≠ 0 then (.error (.busy portTaken), { m with busy := false })
    else (.ok (), { m with server := .loopback (if port = 0 then anyPort else port) })
  | .serverAddress => fun m => (.ok m.server, m)
  | .join => fun m => (some 0, { m with now := m.now + (Span.ofMillis Limits.pollMillis).nanos })
  | .connect _ _ => fun m => (.failed unreachable, m)
  | .reserve _ | .disableDelay | .bindClient => fun m => (.ok (), m)
  | .giveWay | .launch _ | .raiseStop | .abort | .closeClient => fun m => ((), m)

def answerRun : (q : Engine.Request) → StateM Offline q.Answer
  | .host h => answerHost h
  | .openOperation name => fun m => (name, m)
  | .report _ | .closeOperation _ _ _ | .own _ => fun m => ((), m)

def answerSession : (q : Session.Request) → StateM Offline q.Answer
  | .host h => answerHost h
  | .write .output text => fun m => ((), { m with output := m.output.push text })
  | .write .error text => fun m => ((), { m with error := m.error.push text })
  | .moment => fun m => (moment, m)
  | .freshId => fun m => (nthId (m.ids + 1), { m with ids := m.ids + 1 })
  | .lookUp path => fun m => (m.lookUp path, m)

/-- Gives a run up where it waits past a limit, with what it owns then; `none` if the run is over by
then. -/
def giveUp {α : Type} (limit : Nat) (owned : Option Engine.BackgroundTask) :
    Engine.Run α → Offline → Option (List Engine.Release)
  | .done _, _ => none
  | .ask (.own owned) next, m => giveUp limit owned (next ()) m
  | .ask q next, m =>
    let (a, m) := answerRun q m
    if q.awaits && limit < m.now then some (Engine.abandon owned)
    else giveUp limit owned (next a) m

end Offline

end LoopGauge.Machine
