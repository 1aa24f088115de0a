import LoopGauge.Engine.Run
import LoopGauge.Proofs.Conformance

/-!
# Traces of measurements

What is kept of a measurement while its questions are answered: which ports were tried, what was
done with the background task and what is owned of it, whether a step of the set-up has failed and
whether the client has sent or received anything. A question is in order if it may be asked after
what was kept so far, and as long as all questions are in order the trace is sound.

## Main definitions

* `TaskEvent`: what is done with a background task.
* `Trace`: what is kept of a measurement, and `Trace.note`, which keeps it.
* `Trace.Allows`: whether a question is in order.
* `Trace.Sound`: what holds of a trace if all questions were in order.

## Main statements

* `Trace.Sound.note`: a question that is in order keeps the trace sound.
-/

namespace LoopGauge.Engine

namespace Host

/-- Whether the answer means that a step of the set-up has failed. A busy port may be replaced. -/
def breaks : (h : Host) → h.Answer → Bool
  | reserve _, (Except.error _ : Except MemoryProblem Unit) => true
  | bindServer _ port _, (Except.error p : Except BindProblem Unit) => !(p.isBusy && port ≠ 0)
  | serverAddress, (Except.error _ : Except String Address) => true
  | connect _ _, (Timed.failed _ : Timed Unit) => true
  | connect _ _, (Timed.expired : Timed Unit) => true
  | disableDelay, (Except.error _ : Except String Unit) => true
  | bindClient, (Except.error _ : Except BindProblem Unit) => true
  | _, _ => false

/-- Whether the client sends or receives. -/
def measures : Host → Bool
  | wire .clock => false
  | wire _ => true
  | _ => false

end Host

/-- What was done with the background task. -/
inductive TaskEvent where
  | launched (task : Task)
  /-- Its flag was raised, whether or not it was up before. -/
  | stopped
  | joined
  | aborted
deriving DecidableEq

/-- What is done with the background task by a question. -/
def Host.event? : Host → Option TaskEvent
  | launch task => some (.launched task)
  | raiseStop => some .stopped
  | join => some .joined
  | abort => some .aborted
  | _ => none

namespace TaskEvent

/-- How often the stop flag goes up, if it is up or down at first. -/
def rises : (up : Bool) → List TaskEvent → Nat
  | _, [] => 0
  | _, launched _ :: events => rises false events
  | up, stopped :: events => (if up then 0 else 1) + rises true events
  | up, joined :: events | up, aborted :: events => rises up events

/-- The course of a background task, from beginning to end. The flag is raised once more when the
owner of the task goes out of scope. -/
def course (task : Task) : List TaskEvent := [launched task, stopped, joined, stopped]

/-- How far a task may have come in its course. -/
theorem prefix_course_iff {task : Task} {events : List TaskEvent} :
    events <+: course task ↔ events = [] ∨ events = [launched task] ∨
      events = [launched task, stopped] ∨ events = [launched task, stopped, joined] ∨
      events = course task := by
  simp only [course, List.prefix_cons_iff, List.prefix_nil]
  constructor
  · rintro (rfl | ⟨_, rfl, rfl | ⟨_, rfl, rfl | ⟨_, rfl, rfl | ⟨_, rfl, rfl⟩⟩⟩⟩) <;> simp
  · rintro (rfl | rfl | rfl | rfl | rfl) <;> simp

/-- What is owned of the task wherever a measurement waits: all of it while the task runs, and no
handle while its end is waited for. -/
def owner : List TaskEvent → Option BackgroundTask
  | [launched task] => some (.ofLaunched task)
  | [launched task, stopped] => some (BackgroundTask.ofLaunched task).takeHandle.2
  | _ => none

end TaskEvent

open TaskEvent (course owner)

/-- What is kept of a measurement. -/
structure Trace where
  /-- The port that was handed out. -/
  port : Option Nat := none
  /-- The ports that were tried for the server, and what came of it. -/
  binds : List (Nat × Except BindProblem Unit) := []
  /-- What was done with the background task. -/
  events : List TaskEvent := []
  /-- What the measurement owns of it. -/
  owned : Option BackgroundTask := none
  /-- Whether a step of the set-up has failed. -/
  failed : Bool := false
  /-- Whether the client has sent or received. -/
  measured : Bool := false

namespace Trace

/-- The trace when the machine has answered. -/
def noteHost (h : Host) (answer : h.Answer) (t : Trace) : Trace where
  port :=
    match h, answer with
    | .nextPort, (port : Nat) => some port
    | _, _ => t.port
  binds :=
    match h, answer with
    | .bindServer _ port _, (bound : Except BindProblem Unit) => t.binds ++ [(port, bound)]
    | _, _ => t.binds
  events := t.events ++ h.event?.toList
  owned := t.owned
  failed := t.failed || h.breaks answer
  measured := t.measured || h.measures

/-- The trace when a question has been answered. -/
def note : (q : Request) → q.Answer → Trace → Trace
  | .host h, answer, t => t.noteHost h answer
  | .own owned, _, t => { t with owned := owned }
  | _, _, t => t

/-- The port was busy, and another one is to be tried. -/
def RetryDue (t : Trace) : Prop :=
  ∃ port cause, port ≠ 0 ∧ t.binds = [(port, .error (.busy cause))]

/-- What the machine may be asked: a port only once, and another one only if it was busy; no set-up
after the first round, and neither a task nor a round after a failure; the task is launched, stopped,
joined and stopped once more in this order, and not aborted. -/
def Permits (task : Task) (t : Trace) : Host → Prop
  | .wire w => w = .clock ∨ t.failed = false ∧ t.events = [.launched task]
  | .nextPort => t.binds = []
  | .reserve _ | .serverAddress | .connect _ _ | .disableDelay | .bindClient => t.measured = false
  | .bindServer _ port _ =>
    t.measured = false ∧ (t.binds = [] ∧ t.port = some port ∨ t.RetryDue ∧ port = 0)
  | .launch task' => task' = task ∧ t.failed = false ∧ t.events = []
  | .raiseStop => t.events = [.launched task] ∨ t.events = [.launched task, .stopped, .joined]
  | .abort => False
  | .join => t.events = [.launched task, .stopped]
  | .pause _ | .giveWay | .closeClient => True

/-- A question is in order. Another port is tried at once, and a stopped task is joined before
anything else is waited for. -/
structure Allows (task : Task) (q : Request) (t : Trace) : Prop where
  permits : ∀ h, q = .host h → t.Permits task h
  retry : t.RetryDue → ∃ transport sink, q = .host (.bindServer transport 0 sink)
  join : q.awaits → t.events = [.launched task, .stopped] → q = .host .join
  /-- Nothing is waited for between the end of the task and that of its owner. -/
  ended : q.awaits → t.events ≠ [.launched task, .stopped, .joined]
  owned : q.awaits → t.owned = owner t.events

/-- What holds of a trace if all questions were in order. -/
structure Sound (task : Task) (t : Trace) : Prop where
  /-- One port was tried, or two, the second of them any, after the first was busy. -/
  binds : t.binds = [] ∨ ∃ port bound, t.port = some port ∧ (t.binds = [(port, bound)] ∨
    ∃ cause bound', port ≠ 0 ∧ bound = .error (.busy cause) ∧
      t.binds = [(port, bound), (0, bound')])
  /-- The task has come so far in its course. -/
  events : t.events <+: course task
  /-- Nothing was measured if the set-up has failed. -/
  unmeasured : t.failed = true → t.measured = false

variable {task : Task} {t : Trace} {h : Host} {answer : h.Answer}

theorem sound_start (task : Task) : Sound task {} where
  binds := .inl rfl
  events := List.nil_prefix
  unmeasured := nofun

theorem events_noteHost (hevent : h.event? = none) : (t.noteHost h answer).events = t.events := by
  simp [noteHost, hevent]

theorem Sound.noteHost_events (hs : t.Sound task) (hp : t.Permits task h) :
    (t.noteHost h answer).events <+: course task := by
  cases h with
  | launch task' =>
    obtain ⟨rfl, -, hnone⟩ := hp
    exact ⟨[.stopped, .joined, .stopped], by simp [noteHost, hnone, Host.event?, course]⟩
  | raiseStop =>
    obtain hlaunched | hjoined := hp
    · exact ⟨[.joined, .stopped], by simp [noteHost, hlaunched, Host.event?, course]⟩
    · exact ⟨[], by simp [noteHost, hjoined, Host.event?, course]⟩
  | abort => exact hp.elim
  | join =>
    have hstopped : t.events = [.launched task, .stopped] := hp
    exact ⟨[.stopped], by simp [noteHost, hstopped, Host.event?, course]⟩
  | _ =>
    rw [events_noteHost rfl]
    exact hs.events

theorem Sound.noteHost_binds (hs : t.Sound task) (hp : t.Permits task h) :
    (t.noteHost h answer).binds = [] ∨ ∃ port bound, (t.noteHost h answer).port = some port ∧
      ((t.noteHost h answer).binds = [(port, bound)] ∨ ∃ cause bound', port ≠ 0 ∧
        bound = .error (.busy cause) ∧
          (t.noteHost h answer).binds = [(port, bound), (0, bound')]) := by
  cases h with
  | nextPort => exact .inl hp
  | bindServer transport port sink =>
    obtain ⟨-, ⟨hnone, hport⟩ | ⟨⟨busy, cause, hbusy, hbinds⟩, rfl⟩⟩ := hp
    · refine .inr ⟨port, answer, hport, .inl ?_⟩
      simp [noteHost, hnone]
    · -- The port that was busy is the one that was handed out.
      obtain hnone | ⟨port, bound, hport, hone | ⟨_, _, _, _, htwo⟩⟩ := hs.binds
      · rw [hbinds] at hnone
        cases hnone
      · obtain ⟨rfl, rfl⟩ : busy = port ∧ _ = bound := by simpa [hbinds] using hone
        refine .inr ⟨busy, _, hport, .inr ⟨cause, answer, hbusy, rfl, ?_⟩⟩
        simp [noteHost, hbinds]
      · rw [hbinds] at htwo
        cases htwo
  | _ => exact hs.binds

/-- A client that sends or receives has been set up. -/
theorem Permits.of_measures (hp : t.Permits task h) (hm : h.measures = true) :
    t.failed = false ∧ h.breaks answer = false := by
  cases h with
  | wire w =>
    obtain rfl | ⟨hfailed, -⟩ := hp
    · cases hm
    · exact ⟨hfailed, rfl⟩
  | _ => cases hm

/-- A step of the set-up comes before all rounds. -/
theorem Permits.of_breaks (hp : t.Permits task h) (hb : h.breaks answer = true) :
    t.measured = false := by
  cases h with
  | reserve bytes | serverAddress | connect server limit | disableDelay | bindClient => exact hp
  | bindServer transport port sink => exact hp.1
  | _ => cases hb

theorem Sound.noteHost_unmeasured (hs : t.Sound task) (hp : t.Permits task h)
    (hfailed : (t.noteHost h answer).failed = true) : (t.noteHost h answer).measured = false := by
  change (t.failed || h.breaks answer) = true at hfailed
  change (t.measured || h.measures) = false
  by_cases hm : h.measures = true
  · obtain ⟨hgood, hkept⟩ := @Permits.of_measures _ _ _ answer hp hm
    rw [hgood, hkept] at hfailed
    cases hfailed
  · rw [Bool.not_eq_true] at hm
    rw [hm, Bool.or_false]
    obtain hbad | hbreaks := Bool.or_eq_true_iff.1 hfailed
    · exact hs.unmeasured hbad
    · exact hp.of_breaks hbreaks

theorem Sound.noteHost (hs : t.Sound task) (hp : t.Permits task h) :
    (t.noteHost h answer).Sound task where
  binds := hs.noteHost_binds hp
  events := hs.noteHost_events hp
  unmeasured := hs.noteHost_unmeasured hp

/-- A question that is in order keeps the trace sound. -/
theorem Sound.note {q : Request} {answer : q.Answer} (hs : t.Sound task) (ha : t.Allows task q) :
    (t.note q answer).Sound task := by
  cases q with
  | host h => exact hs.noteHost (ha.permits h rfl)
  | report e => exact hs
  | openOperation name => exact hs
  | closeOperation id name success => exact hs
  | own owned => exact ⟨hs.binds, hs.events, hs.unmeasured⟩

end Trace

end LoopGauge.Engine
