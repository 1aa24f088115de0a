import LoopGauge.Engine.Service

/-!
# The server that echoes datagrams

The background task that sends every datagram back, as a machine that asks one question in every
state.

## Main definitions

* `Echo`: where the task is in its work.
* `Echo.view`: what it asks there, and where an answer leads.
* `Echo.rest`: what is left of the work from there on.

## Main statements

* `Echo.rest_eq`: what is left of the work asks what the machine asks.
* `Echo.rest_start`: in the beginning all of the work is left.
-/

namespace LoopGauge.Engine

/-- Where the task is in its work; `turns` more turns after this one. -/
inductive Echo where
  | finished
  /-- Before the look at the stop flag. -/
  | idle (turns : Nat)
  /-- Before the look at the clock that sets the limit of the reception. -/
  | timing (turns : Nat)
  | receiving (turns limit : Nat)
  | replying (turns : Nat) (data : ByteArray) (peer : Address)

namespace Echo

/-- The state before a turn. -/
def before : Nat → Echo
  | 0 => finished
  | turns + 1 => idle turns

/-- The state before the first turn. -/
def start : Echo := before patience

/-- What comes of a reception. -/
def onReception (turns : Nat) : Timed (ByteArray × Address) → Echo
  | .ready (data, peer) => replying turns data peer
  | .failed _ | .expired => before turns

/-- A question of the task, and where an answer leads. -/
abbrev View : Type := (q : Duty) × (q.Answer → Echo)

/-- The limit of a reception that starts now. -/
def limitAfter (now : Nat) : Nat := now + (Span.ofMillis Limits.pollMillis).nanos

variable (size : Nat)

/-- What the task asks, and where an answer leads. -/
def view : Echo → Option View
  | finished => none
  | idle turns =>
      some ⟨.isStopped, fun (stopped : Bool) => if stopped then finished else timing turns⟩
  | timing turns => some ⟨.wire .clock, fun (now : Nat) => receiving turns (limitAfter now)⟩
  | receiving turns limit => some ⟨.wire (.receive size limit), onReception turns⟩
  | replying turns data peer => some ⟨.wire (.send data peer), fun _ => before turns⟩

/-- What is left of the work. -/
def rest : Echo → Work Unit
  | finished => pure ()
  | idle turns => do
    if ← Work.isStopped then pure ()
    else
      match ← Work.talk (Talk.receive size (← Work.soon)) with
      | .ready (data, peer) =>
        let _ ← Work.talk (Talk.send data peer)
        Work.echoDatagrams size turns
      | _ => Work.echoDatagrams size turns
  | timing turns => do
    match ← Work.talk (Talk.receive size (← Work.soon)) with
    | .ready (data, peer) =>
      let _ ← Work.talk (Talk.send data peer)
      Work.echoDatagrams size turns
    | _ => Work.echoDatagrams size turns
  | receiving turns limit => do
    match ← Work.talk (Talk.receive size limit) with
    | .ready (data, peer) =>
      let _ ← Work.talk (Talk.send data peer)
      Work.echoDatagrams size turns
    | _ => Work.echoDatagrams size turns
  | replying turns data peer => do
    let _ ← Work.talk (Talk.send data peer)
    Work.echoDatagrams size turns

theorem rest_before (turns : Nat) : (before turns).rest size = Work.echoDatagrams size turns := by
  cases turns with
  | zero => rfl
  | succ turns => rfl

/-- In the beginning all of the work is left. -/
theorem rest_start : start.rest size = Work.echoDatagrams size patience := rest_before size patience

/-- What is left of the work asks what the machine asks, and an answer leaves of it what the
machine leaves. -/
theorem rest_eq (e : Echo) :
    e.rest size =
      match e.view size with
      | none => .done ()
      | some ⟨q, next⟩ => .ask q fun answer => (next answer).rest size := by
  cases e with
  | finished => rfl
  | idle turns =>
    refine congrArg (Dialogue.ask _) (funext fun (stopped : Bool) => ?_)
    cases stopped <;> rfl
  | timing turns => rfl
  | receiving turns limit =>
    refine congrArg (Dialogue.ask _) (funext fun reception => ?_)
    cases reception with
    | ready arrival => rfl
    | failed cause => exact (rest_before size turns).symm
    | expired => exact (rest_before size turns).symm
  | replying turns data peer =>
    refine congrArg (Dialogue.ask _) (funext fun _ => ?_)
    exact (rest_before size turns).symm

end Echo

end LoopGauge.Engine
