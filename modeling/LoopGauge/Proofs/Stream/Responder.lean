import LoopGauge.Engine.Service
import LoopGauge.Proofs.Moment

/-!
# The server that echoes a stream

The background task that sends back what a stream brings, by the places that it comes to: it waits
for a client, then reads and writes in turn. Whatever is left of its work at some moment is what is
left of it in one of the places.

## Main definitions

* `Responder`: where the task is in its work.
* `Responder.view`: what it asks there, and where an answer leads.
* `Responder.rest`: what is left of the work from there on.

## Main statements

* `Responder.rest_eq`: what is left of the work asks what the task asks in its place.
* `Responder.exists_of_ask`: where the task is when it asks.
-/

namespace LoopGauge.Engine

/-- Where the task is in its work; `turns` more turns after this one. -/
inductive Responder where
  | finished
  /-- Before a look at the stop flag, as long as there is no client. -/
  | waiting (turns : Nat)
  /-- Before the look at the clock that sets the limit of the wait for a client. -/
  | calling (turns : Nat)
  | accepting (turns limit : Nat)
  /-- There is a client. -/
  | tuning
  /-- Before a look at the stop flag. -/
  | idle (turns : Nat)
  /-- Before the look at the clock that sets the limit of the read. -/
  | timing (turns : Nat)
  | reading (turns limit : Nat)
  /-- Before the look at the clock that sets the limit of the reply. -/
  | holding (turns : Nat) (data : ByteArray)
  /-- The first `taken` bytes of the reply are written. -/
  | replying (turns : Nat) (data : ByteArray) (limit taken : Nat)

namespace Responder

/-- The state before a turn without a client. -/
def beforeClient : Nat → Responder
  | 0 => finished
  | turns + 1 => waiting turns

/-- The state before the first turn. -/
def start : Responder := beforeClient patience

/-- The state before a turn with a client. -/
def before : Nat → Responder
  | 0 => finished
  | turns + 1 => idle turns

/-- The limit of an operation that starts now. -/
def limitAfter (now : Nat) : Nat := now + (Span.ofMillis Limits.pollMillis).nanos

/-- What comes of the wait for a client. -/
def onAccept (turns : Nat) : Timed Unit → Responder
  | .ready () => tuning
  | .failed _ => finished
  | .expired => beforeClient turns

/-- What comes of a read. -/
def onRead (turns : Nat) : Timed ByteArray → Responder
  | .ready data => if data.size = 0 then finished else holding turns data
  | .failed _ => finished
  | .expired => before turns

/-- What comes of the bytes of a reply that are written. -/
def onTaken (turns : Nat) (data : ByteArray) (limit taken : Nat) : Responder :=
  if taken < data.size then replying turns data limit taken else before turns

/-- What comes of a write. -/
def onWrite (turns : Nat) (data : ByteArray) (limit taken : Nat) : Timed Nat → Responder
  | .ready 0 => finished
  | .ready (more + 1) => onTaken turns data limit (taken + (more + 1))
  | .failed _ => finished
  | .expired => finished

/-- A question of the task, and where an answer leads. -/
abbrev View : Type := (q : Duty) × (q.Answer → Responder)

/-- A look at the stop flag. -/
def onFlag (place : Responder) : View :=
  ⟨.isStopped, fun (stopped : Bool) => if stopped then finished else place⟩

/-- A look at the clock that sets a limit. -/
def onClock (next : Nat → Responder) : View :=
  ⟨.wire .clock, fun (now : Nat) => next (limitAfter now)⟩

variable (size : Nat)

/-- What the task asks, and where an answer leads. -/
def view : Responder → Option View
  | finished => none
  | waiting turns => some (onFlag (calling turns))
  | calling turns => some (onClock (accepting turns))
  | accepting turns limit => some ⟨.accept limit, onAccept turns⟩
  | tuning => some ⟨.disableDelay, fun _ => before patience⟩
  | idle turns => some (onFlag (timing turns))
  | timing turns => some (onClock (reading turns))
  | reading turns limit => some ⟨.wire (.read size limit), onRead turns⟩
  | holding turns data => some <| onClock fun limit => onTaken turns data limit 0
  | replying turns data limit taken =>
      some ⟨.wire (.write (data.extract taken data.size) limit), onWrite turns data limit taken⟩

/-- The end of the work: an echo counts nothing. -/
def close (work : Work Unit) : Work UInt64 := work >>= fun _ => pure 0

/-- What is left of the work when it is known whether there is a client. -/
def serveClient : Bool → Work UInt64
  | true => do
    Work.disableDelay
    close (Work.echoStream size patience)
  | false => pure 0

/-- What is left of the wait for a client when one wait has ended. -/
def afterAccept (turns : Nat) : Timed Unit → Work Bool
  | .ready () => pure true
  | .failed _ => pure false
  | .expired => Work.awaitClient turns

/-- One wait for a client and what follows on it. -/
def awaitAccept (turns limit : Nat) : Work Bool := Work.accept limit >>= afterAccept turns

/-- A look at the stop flag, one wait for a client, and what follows on it. -/
def awaitFlag (turns : Nat) : Work Bool := do
  if ← Work.isStopped then pure false else Work.soon >>= awaitAccept turns

/-- What is left of the work when a reply has ended. -/
def afterReply (turns : Nat) : Timed Unit → Work Unit
  | .ready () => Work.echoStream size turns
  | .failed _ => pure ()
  | .expired => pure ()

/-- What is left of the work when a read has ended. -/
def afterRead (turns : Nat) : Timed ByteArray → Work Unit
  | .ready data =>
    if data.size = 0 then pure ()
    else do
      let answer ← Work.talk (Talk.writeAll data (← Work.soon))
      afterReply size turns answer
  | .failed _ => pure ()
  | .expired => Work.echoStream size turns

/-- What is left of a reply when a write has ended. -/
def afterWrite (data : ByteArray) (limit taken : Nat) : Timed Nat → Talk (Timed Unit)
  | .ready 0 => pure (.failed "write zero")
  | .ready (more + 1) => Talk.writeFrom data limit (taken + (more + 1))
  | .failed cause => pure (.failed cause)
  | .expired => pure .expired

/-- What is left of the work. -/
def rest : Responder → Work UInt64
  | finished => pure 0
  | waiting turns => awaitFlag turns >>= serveClient size
  | calling turns => Work.soon >>= awaitAccept turns >>= serveClient size
  | accepting turns limit => awaitAccept turns limit >>= serveClient size
  | tuning => serveClient size true
  | idle turns => close do
    if ← Work.isStopped then pure ()
    else afterRead size turns (← Work.talk (Talk.read size (← Work.soon)))
  | timing turns => close do
    afterRead size turns (← Work.talk (Talk.read size (← Work.soon)))
  | reading turns limit => close do
    afterRead size turns (← Work.talk (Talk.read size limit))
  | holding turns data => close do
    let answer ← Work.talk (Talk.writeAll data (← Work.soon))
    afterReply size turns answer
  | replying turns data limit taken => close do
    let answer ← Work.talk do
      afterWrite data limit taken (← Talk.write (data.extract taken data.size) limit)
    afterReply size turns answer

theorem rest_before (turns : Nat) :
    (before turns).rest size = close (Work.echoStream size turns) := by
  cases turns with
  | zero => rfl
  | succ turns =>
    rw [before, Work.echoStream, rest]
    refine congrArg close (congrArg _ (funext fun stopped => ?_))
    split
    · rfl
    · refine congrArg _ (funext fun now => congrArg _ (funext fun data => ?_))
      cases data with
      | ready data =>
        show (if data.size = 0 then _ else _) = (if data.size = 0 then _ else _)
        split
        · rfl
        · refine congrArg _ (funext fun now => congrArg _ (funext fun answer => ?_))
          cases answer <;> rfl
      | failed cause => rfl
      | expired => rfl

theorem rest_beforeClient (turns : Nat) :
    (beforeClient turns).rest size = Work.awaitClient turns >>= serveClient size := by
  cases turns with
  | zero => rfl
  | succ turns =>
    rw [beforeClient, Work.awaitClient, rest]
    refine congrArg (· >>= serveClient size) ?_
    rw [awaitFlag]
    refine congrArg _ (funext fun stopped => ?_)
    split
    · rfl
    · refine congrArg _ (funext fun now => ?_)
      rw [awaitAccept]
      refine congrArg _ (funext fun answer => ?_)
      cases answer <;> rfl

/-- In the beginning all of the work is left. -/
theorem rest_start : start.rest size = Task.serve ⟨.tcp, .echo, size⟩ := by
  rw [start, rest_beforeClient, Task.serve]
  refine congrArg _ (funext fun found => ?_)
  cases found <;> rfl

theorem rest_onTaken (turns : Nat) (data : ByteArray) (limit taken : Nat) :
    (onTaken turns data limit taken).rest size =
      close (Work.talk (Talk.writeFrom data limit taken) >>= afterReply size turns) := by
  rw [onTaken, Talk.writeFrom]
  split
  · refine congrArg (Dialogue.ask _) (funext fun answer => ?_)
    cases answer with
    | ready count => cases count <;> rfl
    | failed cause => rfl
    | expired => rfl
  · exact rest_before size turns

/-- What is left of the work asks what the task asks in its place, and an answer leaves of it what
is left in the place that it leads to. -/
theorem rest_eq (r : Responder) :
    r.rest size =
      match r.view size with
      | none => .done 0
      | some ⟨q, next⟩ => .ask q fun answer => (next answer).rest size := by
  cases r with
  | finished => rfl
  | waiting turns =>
    refine congrArg (Dialogue.ask _) (funext fun (stopped : Bool) => ?_)
    cases stopped <;> rfl
  | calling turns => rfl
  | accepting turns limit =>
    refine congrArg (Dialogue.ask _) (funext fun answer => ?_)
    cases answer with
    | ready found => rfl
    | failed cause => rfl
    | expired => exact (rest_beforeClient size turns).symm
  | tuning =>
    refine congrArg (Dialogue.ask _) (funext fun _ => ?_)
    exact (rest_before size patience).symm
  | idle turns =>
    refine congrArg (Dialogue.ask _) (funext fun (stopped : Bool) => ?_)
    cases stopped <;> rfl
  | timing turns => rfl
  | reading turns limit =>
    refine congrArg (Dialogue.ask _) (funext fun answer => ?_)
    cases answer with
    | ready data =>
      change close (if data.size = 0 then _ else _) =
        (if data.size = 0 then _ else _ : Responder).rest size
      split <;> rfl
    | failed cause => rfl
    | expired => exact (rest_before size turns).symm
  | holding turns data =>
    refine congrArg (Dialogue.ask _) (funext fun (now : Nat) => ?_)
    exact (rest_onTaken size turns data (limitAfter now) 0).symm
  | replying turns data limit taken =>
    refine congrArg (Dialogue.ask _) (funext fun answer => ?_)
    cases answer with
    | ready count =>
      cases count with
      | zero => rfl
      | succ more => exact (rest_onTaken size turns data limit _).symm
    | failed cause => rfl
    | expired => rfl

/-- Where the task is when it asks. -/
theorem exists_of_ask {r : Responder} {q : Duty} {next : q.Answer → Work UInt64}
    (h : r.rest size = .ask q next) :
    ∃ next', r.view size = some ⟨q, next'⟩ ∧
      ∀ answer, next answer = (next' answer).rest size := by
  rw [rest_eq] at h
  cases hview : r.view size with
  | none =>
    rw [hview] at h
    cases h
  | some v =>
    obtain ⟨q', next'⟩ := v
    rw [hview] at h
    cases h
    exact ⟨next', rfl, fun _ => rfl⟩

end Responder

end LoopGauge.Engine
