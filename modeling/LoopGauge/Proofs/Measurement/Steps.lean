import LoopGauge.Proofs.Measurement.Trace

/-!
# The steps of a measurement

Each part of a measurement asks only what is in order, and it is told of each how far the
measurement has come after it: the set-up of server and client, which may fail at any step, the
rounds or writes, which do not fail, and the end of the background task.

## Main definitions

* `Trace.Rests`: where a measurement may wait for anything.
* `Trace.Stands`, `Trace.Settled`: how far a measurement has come.
* `Trace.Leaves`: what an attempt leaves, if it succeeds and if it fails.

## Main statements

* `Attempt.conforms_withTask`: once the task runs it is stopped and joined in any case.
-/

namespace LoopGauge.Engine

open Dialogue TaskEvent

namespace Trace

variable {task : Task} {t : Trace} {h : Host} {answer : h.Answer} {events : List TaskEvent}
  {failed m : Bool}

/-- Where a measurement may wait for anything: before there is a task, while it runs, and when it has
ended. -/
inductive Rests (task : Task) : List TaskEvent → Prop where
  | before : Rests task []
  | running : Rests task [.launched task]
  | ended : Rests task (course task)

/-- How far a measurement has come. It has measured nothing unless `m` says so. -/
structure Stands (t : Trace) (events : List TaskEvent) (failed m : Bool) : Prop where
  owned : t.owned = owner events
  events : t.events = events
  failed : t.failed = failed
  measured : t.measured = true → m = true

/-- And no other port is to be tried. -/
structure Settled (t : Trace) (events : List TaskEvent) (failed m : Bool) : Prop extends
    t.Stands events failed m where
  settled : ¬t.RetryDue

/-- A measurement without a server. -/
structure Unbound (t : Trace) : Prop extends t.Stands [] false false where
  binds : t.binds = []

theorem Stands.unmeasured (ht : t.Stands events failed false) : t.measured = false := by
  cases hm : t.measured with
  | false => rfl
  | true => exact (ht.measured hm).symm

theorem Stands.noteHost (ht : t.Stands events failed m) (h : Host) (answer : h.Answer)
    (hevent : h.event? = none) (hm : h.measures = true → m = true) :
    (t.noteHost h answer).Stands events (failed || h.breaks answer) m where
  events := (events_noteHost hevent).trans ht.events
  owned := ht.owned
  failed := congrArg (· || h.breaks answer) ht.failed
  measured hmeasured := (Bool.or_eq_true_iff.1 hmeasured).elim ht.measured hm

theorem Unbound.settled (ht : t.Unbound) : t.Settled [] false false where
  toStands := ht.toStands
  settled := by
    rintro ⟨port, cause, -, hbinds⟩
    rw [ht.binds] at hbinds
    cases hbinds

/-- What is not waited for only has to be permitted, and to try another port if that is due. -/
theorem allows_of_not_awaits {q : Request} (hwait : ¬q.awaits)
    (hq : ∀ h, q = .host h → t.Permits task h)
    (hretry : t.RetryDue → ∃ transport sink, q = .host (.bindServer transport 0 sink)) :
    t.Allows task q where
  permits := hq
  retry := hretry
  join hawaits := absurd hawaits hwait
  ended hawaits := absurd hawaits hwait
  owned hawaits := absurd hawaits hwait

theorem allows_unwaited (hsettled : ¬t.RetryDue) {q : Request} (hwait : ¬q.awaits)
    (hq : ∀ h, q = .host h → t.Permits task h) : t.Allows task q :=
  allows_of_not_awaits hwait hq fun hdue => absurd hdue hsettled

theorem allows_own (hsettled : ¬t.RetryDue) (owned : Option BackgroundTask) :
    t.Allows task (.own owned) :=
  allows_unwaited hsettled Bool.false_ne_true nofun

theorem Settled.allows (ht : t.Settled events failed m) (hrests : Rests task events) {q : Request}
    (hq : ∀ h, q = .host h → t.Permits task h) : t.Allows task q where
  permits := hq
  retry hdue := absurd hdue ht.settled
  join _ hstopped := by
    rw [ht.events] at hstopped
    subst hstopped
    cases hrests
  ended _ hjoined := by
    rw [ht.events] at hjoined
    subst hjoined
    cases hrests
  owned _ := ht.owned.trans (congrArg owner ht.events.symm)

theorem binds_noteHost (hbind : ∀ transport port sink, h ≠ .bindServer transport port sink) :
    (t.noteHost h answer).binds = t.binds := by
  cases h with
  | bindServer transport port sink => exact absurd rfl (hbind transport port sink)
  | _ => rfl

theorem Settled.noteHost (ht : t.Settled events failed m) (h : Host) (answer : h.Answer)
    (hevent : h.event? = none)
    (hbind : ∀ transport port sink, h ≠ .bindServer transport port sink)
    (hm : h.measures = true → m = true) :
    (t.noteHost h answer).Settled events (failed || h.breaks answer) m where
  toStands := ht.toStands.noteHost h answer hevent hm
  settled := by
    rw [RetryDue, binds_noteHost hbind]
    exact ht.settled

/-- What an attempt leaves, if it succeeds and if it fails. -/
def Leaves {ε α : Type} (ready broken : Trace → Prop) : Except ε α → Trace → Prop
  | .ok _, t => ready t
  | .error _, t => broken t

end Trace

namespace Attempt

open Trace

variable {task : Task} {t : Trace} {events : List TaskEvent} {α ε : Type}
  {ready broken : Trace → Prop}

theorem conforms_orFault {r : Run (Except ε α)} (fault : ε → Fault)
    (hr : r.Conforms note (Allows task) (Leaves ready broken) t) :
    (orFault fault r).run.Conforms note (Allows task) (Leaves ready broken) t := by
  refine (hr.mono fun x t' h => ?_).map
  cases x with
  | ok a => exact h
  | error e => exact h

theorem conforms_reserve (ht : t.Unbound) (bytes : Nat) :
    (reserve bytes).run.Conforms note (Allows task)
      (Leaves Unbound (·.Settled [] true false)) t := by
  refine conforms_orFault _
    ⟨ht.settled.allows .before ?_, fun (x : Except MemoryProblem Unit) => ?_⟩
  · rintro _ ⟨⟩
    exact ht.unmeasured
  · cases x with
    | ok _ => exact ⟨ht.toStands.noteHost (.reserve bytes) (.ok ()) rfl nofun, ht.binds⟩
    | error problem => exact ht.settled.noteHost (.reserve bytes) (.error problem) rfl nofun nofun

/-- The second port is any. -/
theorem conforms_retry (ht : t.Stands [] false false) (hdue : t.RetryDue) (transport : Transport)
    (sink : Bool) (fault : BindProblem → Fault) :
    (orFault fault (Run.bindServer transport 0 sink)).run.Conforms note (Allows task)
      (Leaves (·.Settled [] false false) (·.Settled [] true false)) t := by
  have hstands (bound : Except BindProblem Unit) :=
    ht.noteHost (.bindServer transport 0 sink) bound rfl nofun
  have hover (bound : Except BindProblem Unit) :
      ¬(t.noteHost (.bindServer transport 0 sink) bound).RetryDue := by
    obtain ⟨port, cause, -, hbinds⟩ := hdue
    rintro ⟨_, _, -, htwo⟩
    simp [noteHost, hbinds] at htwo
  refine conforms_orFault fault ⟨allows_of_not_awaits Bool.false_ne_true ?_
    fun _ => ⟨transport, sink, rfl⟩, fun (x : Except BindProblem Unit) => ?_⟩
  · rintro _ ⟨⟩
    exact ⟨ht.unmeasured, .inr ⟨hdue, rfl⟩⟩
  · cases x with
    | ok _ => exact ⟨hstands (.ok ()), hover _⟩
    | error p =>
      have hbreaks : (Host.bindServer transport 0 sink).breaks (Except.error p) = true := by
        simp [Host.breaks]
      refine ⟨?_, hover _⟩
      rw [← hbreaks]
      exact hstands (.error p)

theorem conforms_bindServer (ht : t.Unbound) (transport : Transport) (sink : Bool) {port : Nat}
    (hport : t.port = some port) :
    (bindServer transport sink port).run.Conforms note (Allows task)
      (Leaves (·.Settled [] false false) (·.Settled [] true false)) t := by
  have hbinds (bound : Except BindProblem Unit) :
      (t.noteHost (.bindServer transport port sink) bound).binds = [(port, bound)] := by
    simp [noteHost, ht.binds]
  have hstands (bound : Except BindProblem Unit) :=
    ht.toStands.noteHost (.bindServer transport port sink) bound rfl Bool.noConfusion
  refine ⟨ht.settled.allows .before ?_, fun (bound : Except BindProblem Unit) => ?_⟩
  · rintro _ ⟨⟩
    exact ⟨ht.unmeasured, .inl ⟨ht.binds, hport⟩⟩
  cases bound with
  | ok _ =>
    refine ⟨hstands (.ok ()), ?_⟩
    rintro ⟨_, _, _, hbusy⟩
    cases (hbinds (.ok ())).symm.trans hbusy
  | error p =>
    change Dialogue.Conforms _ _ _ (ExceptT.run (if p.isBusy && port ≠ 0 then _ else _)) _
    split
    next hretry =>
      -- The port is busy, so another one is tried.
      obtain ⟨hbusy, hport⟩ : p.isBusy = true ∧ port ≠ 0 := by simpa using hretry
      refine conforms_retry ?_ ?_ transport sink _
      · have hkept : (Host.bindServer transport port sink).breaks (Except.error p) = false := by
          simp [Host.breaks, hbusy, hport]
        have hstood := hstands (.error p)
        rw [hkept] at hstood
        exact hstood
      · cases p with
        | busy cause => exact ⟨port, cause, hport, hbinds (.error (.busy cause))⟩
        | refused cause => cases hbusy
        | unregistered cause => cases hbusy
    next hgiven =>
      have hbreaks : (Host.bindServer transport port sink).breaks (Except.error p) = true :=
        congrArg not ((Bool.not_eq_true _).mp hgiven)
      refine ⟨?_, ?_⟩
      · rw [← hbreaks]
        exact hstands (.error p)
      · rintro ⟨busy, cause, hbusy, hone⟩
        obtain ⟨rfl, rfl⟩ : port = busy ∧ p = .busy cause := by
          simpa using (hbinds (.error p)).symm.trans hone
        exact hgiven (by simp [BindProblem.isBusy, hbusy])

theorem conforms_openServer (ht : t.Unbound) (test : SubTest) :
    (openServer test).run.Conforms note (Allows task)
      (Leaves (·.Settled [] false false) (·.Settled [] true false)) t := by
  have hport (port : Nat) : (t.noteHost .nextPort port).Unbound :=
    ⟨ht.toStands.noteHost .nextPort port rfl nofun, ht.binds⟩
  refine ⟨ht.settled.allows .before ?_, fun (port : Nat) => ?_⟩
  · rintro _ ⟨⟩
    exact ht.binds
  refine (conforms_bindServer (hport port) test.transport (!test.isLatency) rfl).attempt_bind
    (fun _ t ht => ?_) fun _ _ ht => ht
  have haddress :
      (orFault (socketFault "Failed to read bound address") Run.serverAddress).run.Conforms
        note (Allows task) (Leaves (·.Settled [] false false) (·.Settled [] true false)) t := by
    refine conforms_orFault _ ⟨ht.allows .before ?_, fun (x : Except String Address) => ?_⟩
    · rintro _ ⟨⟩
      exact ht.unmeasured
    · cases x with
      | ok address => exact ht.noteHost .serverAddress (.ok address) rfl nofun nofun
      | error cause => exact ht.noteHost .serverAddress (.error cause) rfl nofun nofun
  refine haddress.attempt_bind (fun address t ht => ?_) fun _ _ ht => ht
  split
  · exact ⟨ht.allows .before nofun, fun _ => ht⟩
  · exact ht

/-- A step of the set-up of a client. -/
theorem conforms_clientStep (task : Task) (ht : t.Settled events false false)
    (hrests : Rests task events) (h : Host) (hperm : t.Permits task h)
    (hevent : h.event? = none)
    (hbind : ∀ transport port sink, h ≠ .bindServer transport port sink)
    (hm : h.measures = false) :
    (Run.host h).Conforms note (Allows task)
      (fun answer t => t.Settled events (h.breaks answer) false) t := by
  refine ⟨ht.allows hrests ?_, fun answer => ht.noteHost h answer hevent hbind ?_⟩
  · rintro _ ⟨⟩
    exact hperm
  · rw [hm]
    nofun

theorem conforms_openClient (ht : t.Settled [.launched task] false false) (test : SubTest)
    (server : Address) :
    (openClient test server).run.Conforms note (Allows task)
      (Leaves (·.Settled [.launched task] false false)
        (·.Settled [.launched task] true false)) t := by
  have hconnect : (connect server).run.Conforms note (Allows task)
      (Leaves (·.Settled [.launched task] false false)
        (·.Settled [.launched task] true false)) t := by
    have hstep := conforms_clientStep task ht .running
      (.connect server (Span.ofMillis Limits.connectMillis)) ht.unmeasured rfl nofun rfl
    refine hstep.lift_bind fun (x : Timed Unit) t ht => ?_
    cases x with
    | ready _ => exact ht
    | failed cause => exact ht
    | expired => exact ht
  rw [openClient]
  split
  · have hstep := conforms_clientStep task ht .running .bindClient ht.unmeasured rfl nofun rfl
    refine conforms_orFault _ (hstep.mono fun (x : Except BindProblem Unit) t ht => ?_)
    cases x with
    | ok _ => exact ht
    | error p => exact ht
  · refine hconnect.attempt_bind (fun _ t ht => ?_) fun _ _ ht => ht
    split
    · have hstep := conforms_clientStep task ht .running .disableDelay ht.unmeasured rfl nofun rfl
      refine conforms_orFault _ (hstep.mono fun (x : Except String Unit) t ht => ?_)
      cases x with
      | ok _ => exact ht
      | error cause => exact ht
    · exact ht

end Attempt

namespace Run

open Trace

variable {task : Task} {t : Trace} {failed m : Bool}

theorem conforms_spawn (ht : t.Settled [] false false) :
    (spawn task).Conforms note (Allows task)
      (fun b t => b = .ofLaunched task ∧ t.Settled [.launched task] false false) t := by
  have hlaunched : (t.noteHost (.launch task) ()).events = [.launched task] :=
    congrArg (· ++ [TaskEvent.launched task]) ht.events
  have hfailed : (t.noteHost (.launch task) ()).failed = false := by
    simp [noteHost, ht.failed, Host.breaks]
  have hunmeasured : (t.noteHost (.launch task) ()).measured = false := by
    simp [noteHost, ht.unmeasured, Host.measures]
  refine ⟨ht.allows .before ?_, fun _ => ⟨?_, fun _ => ?_⟩⟩
  · rintro _ ⟨⟩
    exact ⟨rfl, ht.failed, ht.events⟩
  · refine allows_own ?_ _
    exact ht.settled
  · exact ⟨rfl, ⟨rfl, hlaunched, hfailed, fun hm => hunmeasured.symm.trans hm⟩, ht.settled⟩

/-- When the task has been joined, its owner raises the flag once more and is gone. -/
theorem conforms_drop (hevents : t.events = [.launched task, .stopped, .joined])
    (hfailed : t.failed = failed) (hm : t.measured = true → m = true) (hsettled : ¬t.RetryDue) :
    (drop ⟨none⟩).Conforms note (Allows task) (fun _ t => t.Settled (course task) failed m) t := by
  have hcourse : (t.noteHost .raiseStop ()).events = course task :=
    congrArg (· ++ [TaskEvent.stopped]) hevents
  refine ⟨allows_unwaited hsettled Bool.false_ne_true ?_, fun _ => ⟨?_, fun _ => ?_⟩⟩
  · rintro _ ⟨⟩
    exact .inr hevents
  · refine allows_own ?_ _
    exact hsettled
  · refine ⟨⟨rfl, hcourse, ?_, fun hmeasured => hm ?_⟩, hsettled⟩
    · simp [note, noteHost, hfailed, Host.breaks]
    · simpa [note, noteHost, Host.measures] using hmeasured

theorem conforms_stopAndJoin (ht : t.Settled [.launched task] failed m) :
    (stopAndJoin (.ofLaunched task)).Conforms note (Allows task)
      (fun _ t => t.Settled (course task) failed m) t := by
  have hstopped : (t.noteHost .raiseStop ()).events = [.launched task, .stopped] :=
    congrArg (· ++ [TaskEvent.stopped]) ht.events
  refine ⟨ht.allows .running ?_, fun _ => ⟨?_, fun _ =>
    ⟨⟨?_, fun hdue => absurd hdue ht.settled, fun _ _ => rfl, fun _ => ?_, fun _ => ?_⟩,
      fun counted => ?_⟩⟩⟩
  · rintro _ ⟨⟩
    exact .inl ht.events
  · refine allows_own ?_ _
    exact ht.settled
  · rintro _ ⟨⟩
    exact hstopped
  · exact fun hjoined => nomatch hstopped.symm.trans hjoined
  · exact (congrArg owner hstopped).symm
  · refine (conforms_drop ?_ ?_ (fun hm => ht.measured ?_) ?_).bind fun _ _ ht => ht
    · exact congrArg (· ++ [TaskEvent.joined]) hstopped
    · simp [note, noteHost, ht.failed, Host.breaks]
    · simpa [note, noteHost, Host.measures] using hm
    · exact ht.settled

/-- Questions of rounds and writes. -/
def Working : Request → Prop
  | .host (.wire _) | .host (.pause _) | .host .giveWay | .report _ => True
  | _ => False

theorem only_talk {α : Type} (x : Talk α) : (talk x).Only Working := by
  induction x with
  | done a => trivial
  | ask w next ih => exact ⟨trivial, fun answer => ih answer⟩

theorem conforms_of_working {α : Type} {d : Run α} (hd : d.Only Working)
    (ht : t.Settled [.launched task] false true) :
    d.Conforms note (Allows task) (fun _ t => t.Settled [.launched task] false true) t := by
  -- None of these questions changes how far the measurement has come.
  induction d generalizing t with
  | done a => exact ht
  | ask q next ih =>
    refine ⟨ht.allows .running ?_, fun answer => ih answer (hd.2 answer) ?_⟩
    · rintro h rfl
      cases h with
      | wire w => exact .inr ⟨ht.failed, ht.events⟩
      | pause span => trivial
      | giveWay => trivial
      | _ => exact hd.1.elim
    · cases q with
      | host h =>
        cases h with
        | wire w => exact ht.noteHost (.wire w) answer rfl nofun fun _ => rfl
        | pause span => exact ht.noteHost (.pause span) answer rfl nofun fun _ => rfl
        | giveWay => exact ht.noteHost .giveWay answer rfl nofun fun _ => rfl
        | _ => exact hd.1.elim
      | report e => exact ht
      | openOperation | closeOperation | own => exact hd.1.elim

theorem only_deadlineAfter (budget : Span) : (deadlineAfter budget).Only Working :=
  (only_talk Talk.clock).bind fun _ => trivial

theorem only_streamRounds (message : ByteArray) (deadline room : Nat) (rounds : Rounds) :
    (streamRounds message deadline room rounds).Only Working := by
  induction room generalizing rounds with
  | zero => trivial
  | succ room ih =>
    refine (only_talk Talk.clock).bind fun now => ?_
    split
    · trivial
    · refine (only_talk Talk.clock).bind fun started => ?_
      refine (only_talk _).bind fun round => ?_
      cases round with
      | ready data => exact (only_talk Talk.clock).bind fun ended => ih _
      | failed cause => exact ⟨trivial, fun _ => trivial⟩
      | expired => exact ⟨trivial, fun _ => trivial⟩

theorem only_datagramRounds (server : Address) (size cap deadline turns round : Nat)
    (rounds : Rounds) :
    (datagramRounds server size cap deadline turns round rounds).Only Working := by
  induction turns generalizing round rounds with
  | zero => trivial
  | succ turns ih =>
    rw [datagramRounds]
    split
    · trivial
    · refine (only_talk Talk.clock).bind fun now => ?_
      split
      · trivial
      · refine (only_talk Talk.clock).bind fun started => ?_
        refine (only_talk _).bind fun echo => ?_
        cases echo with
        | ok _ => exact (only_talk Talk.clock).bind fun ended => ih _ _
        | error fault => exact ⟨trivial, fun _ => ih _ _⟩

theorem only_sendStream (buffer : ByteArray) (deadline turns offset : Nat) (sent : UInt64) :
    (sendStream buffer deadline turns offset sent).Only Working := by
  induction turns generalizing offset sent with
  | zero => trivial
  | succ turns ih =>
    refine (only_talk Talk.clock).bind fun now => ?_
    split
    · trivial
    · refine (only_talk _).bind fun taken => ?_
      cases taken with
      | ready count =>
        cases count with
        | zero => exact ⟨trivial, fun _ => trivial⟩
        | succ more => exact ih _ _
      | failed cause => exact ⟨trivial, fun _ => trivial⟩
      | expired => trivial

theorem only_sendDatagrams (server : Address) (buffer : ByteArray) (deadline turns left : Nat)
    (sent : UInt64) : (sendDatagrams server buffer deadline turns left sent).Only Working := by
  induction turns generalizing left sent with
  | zero => trivial
  | succ turns ih =>
    refine (only_talk Talk.clock).bind fun now => ?_
    split
    · trivial
    · refine (only_talk _).bind fun taken => ?_
      cases left with
      | zero => exact ⟨trivial, fun _ => ih _ _⟩
      | succ left => exact ih _ _

end Run

namespace LatencyProbe

theorem only_rounds (p : LatencyProbe) (budget : Span) (server : Address) :
    (p.rounds budget server).Only Run.Working := by
  refine (Run.only_deadlineAfter budget).bind fun deadline => ?_
  split
  · exact Run.only_streamRounds _ _ _ _
  · exact Run.only_datagramRounds _ _ _ _ _ _ _

end LatencyProbe

namespace ThroughputProbe

theorem only_transfer (p : ThroughputProbe) (budget : Span) (server : Address) :
    (p.transfer budget server).Only Run.Working := by
  obtain ⟨transport, size, logger⟩ := p
  refine (Run.only_talk Talk.clock).bind fun started => ?_
  refine (Run.only_deadlineAfter budget).bind fun deadline => ?_
  have hrest (sent : UInt64) : (do
      let ended ← Run.clock
      Run.pause (Span.ofMillis Limits.drainMillis)
      return (sent, Span.ofNanos (ended - started)) : Run (UInt64 × Span)).Only Run.Working :=
    (Run.only_talk Talk.clock).bind fun ended => ⟨trivial, fun _ => trivial⟩
  cases transport with
  | tcp => exact (Run.only_sendStream _ _ _ _ _).bind hrest
  | udp => exact (Run.only_sendDatagrams _ _ _ _ _ _).bind hrest

end ThroughputProbe

namespace Trace

/-- What a set-up that has failed leaves: no task, or one that was stopped and joined. -/
def Broken (task : Task) (t : Trace) : Prop :=
  t.Settled [] true false ∨ t.Settled (course task) true false

/-- How a measurement ends: with its task stopped and joined, or with the failure. -/
def Concludes {ρ : Type} (task : Task) (failure r : ρ) (t : Trace) : Prop :=
  t.Settled (course task) false true ∨ r = failure ∧ t.Broken task

end Trace

open Trace

variable {task : Task} {t : Trace} {α : Type}

/-- Once the task runs it is stopped and joined in any case. -/
theorem Attempt.conforms_withTask (task : Task) {measure : Address → Run α}
    (hmeasure : ∀ server, (measure server).Only Run.Working) (ht : t.Unbound) (test : SubTest) :
    (withTask test task measure).run.Conforms note (Allows task)
      (Leaves (·.Settled (course task) false true) (·.Broken task)) t := by
  refine (conforms_openServer ht test).attempt_bind (fun server t ht => ?_) fun _ _ ht => .inl ht
  refine (Run.conforms_spawn ht).lift_bind fun background t ht => ?_
  obtain ⟨rfl, ht⟩ := ht
  have hpaused : (Run.pause (Span.ofMillis Limits.warmupMillis)).Conforms note (Allows task)
      (fun _ t => t.Settled [.launched task] false false) t :=
    conforms_clientStep task ht .running (.pause _) trivial rfl (by simp) rfl
  refine hpaused.lift_bind fun _ t ht => ?_
  refine (conforms_openClient ht test server).lift_bind fun client t ht => ?_
  cases client with
  | error fault =>
    exact (Run.conforms_stopAndJoin ht).lift_bind fun counted t ht => .inr ht
  | ok _ =>
    have ht : t.Settled [.launched task] false true :=
      ⟨⟨ht.owned, ht.events, ht.failed, fun _ => rfl⟩, ht.settled⟩
    refine (Run.conforms_of_working (hmeasure server) ht).lift_bind fun result t ht => ?_
    refine (Run.conforms_stopAndJoin ht).lift_bind fun counted t ht => ?_
    refine ⟨ht.allows .ended ?_, fun _ => ?_⟩
    · rintro _ ⟨⟩
      trivial
    · exact ht.noteHost .closeClient () rfl (by simp) Bool.noConfusion

theorem Trace.unbound_start : Unbound {} := ⟨⟨rfl, rfl, rfl, nofun⟩, rfl⟩

/-- The end of a measurement is reported. -/
theorem Run.conforms_told {ρ : Type} {failure r : ρ} (e : Event) (ht : Concludes task failure r t) :
    (do
      Run.report e
      return r : Run ρ).Conforms note (Allows task) (Concludes task failure) t := by
  refine ⟨?_, fun _ => ht⟩
  obtain ht | ⟨-, ht | ht⟩ := ht
  · exact ht.allows .ended (by simp)
  · exact ht.allows .before (by simp)
  · exact ht.allows .ended (by simp)

/-- The first of all questions is whether there is memory. -/
theorem Attempt.conforms_reserve_bind {x : Unit → Attempt α} {ready : Trace → Prop} (ht : t.Unbound)
    (bytes : Nat) (hx : ∀ t : Trace, t.Unbound →
      (x ()).run.Conforms note (Allows task) (Leaves ready (·.Broken task)) t) :
    (reserve bytes >>= x).run.Conforms note (Allows task) (Leaves ready (·.Broken task)) t :=
  (conforms_reserve ht bytes).attempt_bind (fun _ t ht => hx t ht) fun _ _ ht => .inl ht

end LoopGauge.Engine
