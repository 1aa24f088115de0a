import LoopGauge.Engine.Run
import LoopGauge.Proofs.Measurement.Steps

/-!
# The questions of a measurement

A measurement asks the machine and reports events. It neither starts nor ends an operation, and to
make its server and its client it neither launches a task nor sends anything.

## Main definitions

* `Request.SetsUp`: questions by which servers and clients are made.
* `Request.Works`: questions to the machine, reports, and what is owned.

## Main statements

* `only_runEach`: what holds of the questions of each measurement holds of all of them together.
* `Probe.only_measure`: the questions of a measurement.
-/

namespace LoopGauge.Engine

namespace Request

/-- Questions by which servers and clients are made. -/
def SetsUp : Request → Prop
  | .host (.reserve _) | .host .nextPort | .host (.bindServer _ _ _) | .host .serverAddress
  | .host (.connect _ _) | .host .bindClient | .host .disableDelay | .report _ => True
  | _ => False

/-- Questions to the machine, reports, and what is owned. -/
def Works : Request → Prop
  | .host _ | .report _ | .own _ => True
  | .openOperation _ | .closeOperation _ _ _ => False

theorem SetsUp.works {q : Request} (h : q.SetsUp) : q.Works := by
  cases q with
  | host | report | own => trivial
  | openOperation | closeOperation => exact h

end Request

theorem Run.Working.works {q : Request} (h : Run.Working q) : q.Works := by
  cases q with
  | host | report | own => trivial
  | openOperation | closeOperation => exact h

open Request (SetsUp Works)

namespace Run

theorem only_spawn (task : Task) : (spawn task).Only Works :=
  ⟨trivial, fun _ => ⟨trivial, fun _ => trivial⟩⟩

theorem only_drop (b : BackgroundTask) : (drop b).Only Works := by
  obtain ⟨_ | task⟩ := b
  · exact ⟨trivial, fun _ => ⟨trivial, fun _ => trivial⟩⟩
  · exact ⟨trivial, fun _ => ⟨trivial, fun _ => ⟨trivial, fun _ => trivial⟩⟩⟩

theorem only_stopAndJoin (b : BackgroundTask) : (stopAndJoin b).Only Works := by
  have hrest (counted : Option UInt64) : (do
      drop b.takeHandle.2
      return counted : Run (Option UInt64)).Only Works :=
    (only_drop _).bind fun _ => trivial
  refine ⟨trivial, fun _ => ⟨trivial, fun _ => ?_⟩⟩
  obtain ⟨_ | task⟩ := b
  · exact hrest none
  · exact ⟨trivial, fun counted => hrest counted⟩

end Run

namespace Attempt

variable {P : Request → Prop} {α ε : Type}

theorem only_step {r : Run α} (h : r.Only P) : (step r).run.Only P :=
  h.map Except.ok

theorem only_orFault {fault : ε → Fault} {r : Run (Except ε α)} (h : r.Only P) :
    (orFault fault r).run.Only P :=
  h.map _

theorem only_host {h : Host} (hP : P (.host h)) : (Run.host h).Only P :=
  Dialogue.only_request hP

theorem only_reserve (bytes : Nat) : (reserve bytes).run.Only SetsUp :=
  only_orFault (only_host trivial)

theorem only_bindServer (t : Transport) (sink : Bool) (port : Nat) :
    (bindServer t sink port).run.Only SetsUp := by
  refine (only_step (only_host trivial)).attempt_bind fun bound => ?_
  cases bound with
  | ok _ => trivial
  | error p =>
    dsimp only
    split
    · exact only_orFault (only_host trivial)
    · trivial

theorem only_openServer (test : SubTest) : (openServer test).run.Only SetsUp := by
  refine (only_step (only_host trivial)).attempt_bind fun port => ?_
  refine (only_bindServer _ _ port).attempt_bind fun _ => ?_
  refine (only_orFault (only_host trivial)).attempt_bind fun address => ?_
  split
  · exact (only_step (Dialogue.only_request trivial)).attempt_bind fun _ => trivial
  · trivial

theorem only_openClient (test : SubTest) (server : Address) :
    (openClient test server).run.Only SetsUp := by
  have hconnect : (connect server).run.Only SetsUp := by
    refine (only_step (only_host trivial)).attempt_bind fun connected => ?_
    cases connected <;> trivial
  rw [openClient]
  split
  · exact only_orFault (only_host trivial)
  · refine hconnect.attempt_bind fun _ => ?_
    split
    · exact only_orFault (only_host trivial)
    · trivial

theorem only_withTask (test : SubTest) (task : Task) {measure : Address → Run α}
    (hmeasure : ∀ server, (measure server).Only Run.Working) :
    (withTask test task measure).run.Only Works := by
  have hhost (h : Host) : (Run.host h).Only Works := only_host trivial
  have hserver := (only_openServer test).mono fun _ => SetsUp.works
  refine hserver.attempt_bind fun server => ?_
  refine (only_step (Run.only_spawn task)).attempt_bind fun background => ?_
  refine (only_step (hhost (.pause _))).attempt_bind fun _ => ?_
  have hclient := (only_openClient test server).mono fun _ => SetsUp.works
  refine (only_step hclient).attempt_bind fun client => ?_
  cases client with
  | error fault =>
    exact (only_step (Run.only_stopAndJoin background)).attempt_bind fun _ => trivial
  | ok _ =>
    have hworking := (hmeasure server).mono fun _ => Run.Working.works
    refine (only_step hworking).attempt_bind fun result => ?_
    refine (only_step (Run.only_stopAndJoin background)).attempt_bind fun counted => ?_
    exact (only_step (hhost .closeClient)).attempt_bind fun _ => trivial

end Attempt

namespace LatencyProbe

theorem only_measure (p : LatencyProbe) (budget : Span) : (p.measure budget).Only Works := by
  have hreserve (bytes : Nat) : (Attempt.reserve bytes).run.Only Works :=
    (Attempt.only_reserve bytes).mono fun _ => SetsUp.works
  have hattempt : (p.attempt budget).run.Only Works := by
    refine (hreserve _).attempt_bind fun _ => ?_
    refine (hreserve _).attempt_bind fun _ => ?_
    refine (hreserve _).attempt_bind fun _ => ?_
    refine (hreserve _).attempt_bind fun _ => ?_
    exact (Attempt.only_withTask _ _ (p.only_rounds budget)).attempt_bind fun _ => trivial
  refine ⟨trivial, fun _ => hattempt.bind fun result => ?_⟩
  cases result <;> exact ⟨trivial, fun _ => trivial⟩

end LatencyProbe

namespace ThroughputProbe

theorem only_measure (p : ThroughputProbe) (budget : Span) : (p.measure budget).Only Works := by
  have hreserve (bytes : Nat) : (Attempt.reserve bytes).run.Only Works :=
    (Attempt.only_reserve bytes).mono fun _ => SetsUp.works
  have hattempt : (p.attempt budget).run.Only Works := by
    refine (hreserve _).attempt_bind fun _ => ?_
    refine (hreserve _).attempt_bind fun _ => ?_
    exact (Attempt.only_withTask _ _ (p.only_transfer budget)).attempt_bind fun _ => trivial
  refine ⟨trivial, fun _ => hattempt.bind fun result => ?_⟩
  cases result <;> exact ⟨trivial, fun _ => trivial⟩

end ThroughputProbe

/-- A measurement starts no operation and ends none. -/
theorem Probe.only_measure (p : Probe) (budget : Span) : (p.measure budget).Only Works := by
  cases p with
  | latency p => exact (p.only_measure budget).map _
  | throughput p => exact (p.only_measure budget).map _

theorem only_runEach {P : Request → Prop} {probe : SubTest → Run Report}
    (hprobe : ∀ t, (probe t).Only P) (tests : List SubTest) (b : BenchResult) :
    (runEach probe tests b).Only P := by
  induction tests generalizing b with
  | nil => trivial
  | cons t tests ih => exact (hprobe t).bind fun report => ih _

end LoopGauge.Engine
