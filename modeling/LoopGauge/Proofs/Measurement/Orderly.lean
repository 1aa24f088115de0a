import LoopGauge.Machine.Offline
import LoopGauge.Proofs.Measurement.Steps

/-!
# Orderly measurements

A measurement has a report whatever its questions are answered. If it cannot be set up the report is
that of a failure and nothing was measured; the background task, if there was one, was stopped and
joined. A measurement that is given up while its task runs raises the flag and aborts the task. One
that is given up while it joins the task does not: the handle is gone by then, and the task is left
to itself with its flag raised.

## Main definitions

* `Orderly`: what holds of a measurement at a moment.

## Main statements

* `Probe.conforms_course`: all that a probe asks is in order.
* `Probe.measure_orderly`: a measurement is orderly at every moment.
* `exists_moment_of_giveUp`: who gives it up does so at such a moment.
* `measure_given_up_joining`: one that is given up while it joins its task does not abort it.
-/

namespace LoopGauge.Engine

open Dialogue TaskEvent Trace
open Machine (Offline)

namespace LatencyProbe

variable (p : LatencyProbe) (budget : Span)

theorem conforms_setUp : (p.attempt budget).run.Conforms note (Allows p.task)
    (Leaves (·.Settled (course p.task) false true) (·.Broken p.task)) {} := by
  refine Attempt.conforms_reserve_bind unbound_start _ fun t ht => ?_
  refine Attempt.conforms_reserve_bind ht _ fun t ht => ?_
  refine Attempt.conforms_reserve_bind ht _ fun t ht => ?_
  refine Attempt.conforms_reserve_bind ht _ fun t ht => ?_
  have hmeasured := Attempt.conforms_withTask p.task (p.only_rounds budget) ht p.subTest
  exact hmeasured.attempt_bind (fun _ _ ht => ht) fun _ _ ht => ht

theorem conforms_course :
    (p.measure budget).Conforms note (Allows p.task) (Concludes p.task .failed) {} := by
  refine ⟨unbound_start.settled.allows .before nofun, fun _ => ?_⟩
  refine (p.conforms_setUp budget).bind fun x t ht => ?_
  cases x with
  | ok result => exact Run.conforms_told _ (.inl ht)
  | error fault => exact Run.conforms_told _ (.inr ⟨rfl, ht⟩)

end LatencyProbe

namespace ThroughputProbe

variable (p : ThroughputProbe) (budget : Span)

theorem conforms_setUp : (p.attempt budget).run.Conforms note (Allows p.task)
    (Leaves (·.Settled (course p.task) false true) (·.Broken p.task)) {} := by
  refine Attempt.conforms_reserve_bind unbound_start _ fun t ht => ?_
  refine Attempt.conforms_reserve_bind ht _ fun t ht => ?_
  have hmeasured := Attempt.conforms_withTask p.task (p.only_transfer budget) ht p.subTest
  exact hmeasured.attempt_bind (fun _ _ ht => ht) fun _ _ ht => ht

theorem conforms_course :
    (p.measure budget).Conforms note (Allows p.task) (Concludes p.task .failed) {} := by
  refine ⟨unbound_start.settled.allows .before nofun, fun _ => ?_⟩
  refine (p.conforms_setUp budget).bind fun x t ht => ?_
  cases x with
  | ok result => exact Run.conforms_told _ (.inl ht)
  | error fault => exact Run.conforms_told _ (.inr ⟨rfl, ht⟩)

end ThroughputProbe

namespace Probe

/-- The background task of a probe. -/
def task : Probe → Task
  | latency p => p.task
  | throughput p => p.task

/-- The report of a probe that could not measure. -/
def failure : Probe → Report
  | latency _ => .latency .failed
  | throughput _ => .throughput .failed

/-- All that a probe asks is in order. -/
theorem conforms_course (p : Probe) (budget : Span) :
    (p.measure budget).Conforms note (Allows p.task) (Concludes p.task p.failure) {} := by
  cases p with
  | latency p =>
    refine ((p.conforms_course budget).mono fun r t ht => ?_).map
    exact ht.imp id fun hbroken => ⟨congrArg Report.latency hbroken.1, hbroken.2⟩
  | throughput p =>
    refine ((p.conforms_course budget).mono fun r t ht => ?_).map
    exact ht.imp id fun hbroken => ⟨congrArg Report.throughput hbroken.1, hbroken.2⟩

end Probe

/-- What holds of a measurement at a moment, by what is left of it and its trace so far. -/
structure Orderly (p : Probe) (left : Run Report) (t : Trace) : Prop where
  /-- There is a report if every question is answered, in whichever way. -/
  returns : ∀ {W : Type} (answers : Answers W Request.Answer),
    (∀ w q, ∃ answer w', answers w q answer w') → ∀ w, ∃ r w', left.Yields answers w r w'
  /-- The server was bound to the port that was handed out, or to any if that one was busy. -/
  binds : t.binds = [] ∨ ∃ port bound, t.port = some port ∧ (t.binds = [(port, bound)] ∨
    ∃ cause bound', port ≠ 0 ∧ bound = .error (.busy cause) ∧
      t.binds = [(port, bound), (0, bound')])
  /-- If it was busy, any other is what comes next. -/
  retries : t.RetryDue →
    ∃ transport sink next, left = .ask (.host (.bindServer transport 0 sink)) next
  /-- If a step of the set-up has failed, nothing was measured, and the report says no more. -/
  failed : t.failed = true → t.measured = false ∧ ∀ r, left = .done r → r = p.failure
  /-- The task is launched, stopped and joined in this order; then its owner raises the flag, which
  is up, once more. -/
  events : t.events <+: course p.task
  /-- At the end nothing is owned. If there was a task, its flag went up once, and it was joined
  once. -/
  joined : ∀ r, left = .done r → t.owned = none ∧
    (t.events = course p.task ∧ rises false t.events = 1 ∧ t.events.count .joined = 1 ∨
      t.failed = true ∧ t.events = [])
  /-- Given up where it waits, the measurement leaves nothing to be done before there is a task and
  when it has ended. While the task runs, its flag is raised and it is aborted; while it is being
  joined, only the flag is raised. -/
  givenUp : ∀ q next, left = .ask q next → q.awaits →
    t.events = [] ∧ abandon t.owned = [] ∨
    t.events = [.launched p.task] ∧ abandon t.owned = [.raiseStop, .abort] ∨
    t.events = [.launched p.task, .stopped] ∧ q = .host .join ∧ abandon t.owned = [.raiseStop] ∨
    t.events = course p.task ∧ abandon t.owned = []

/-- The world that keeps a trace of a measurement and may answer anything. -/
def Trace.keeps : Answers Trace Request.Answer := fun t q answer t' => t' = t.note q answer

variable {p : Probe} {budget : Span} {left : Run Report} {t : Trace}

theorem sound_of_reaches
    (h : (p.measure budget).Reaches keeps (fun _ _ => False) {} left t) :
    left.Conforms note (Allows p.task) (Concludes p.task p.failure) t ∧ t.Sound p.task := by
  -- What conforms asks only what is allowed, and what is allowed keeps a trace sound.
  induction h with
  | start => exact ⟨p.conforms_course budget, sound_start p.task⟩
  | turn before turn ih =>
    obtain ⟨q, answer, rfl, hallows, hconforms⟩ := ih.1.turn turn
    exact ⟨hconforms, ih.2.note hallows⟩
  | drift before drift ih => exact drift.elim

/-- **Orderly measurements**: a measurement is orderly at every moment, whatever it is answered. -/
theorem Probe.measure_orderly
    (h : (p.measure budget).Reaches keeps (fun _ _ => False) {} left t) : Orderly p left t := by
  obtain ⟨hconforms, hsound⟩ := sound_of_reaches h
  constructor
  case returns => exact fun answers hanswers w => exists_yields hanswers left w
  case binds => exact hsound.binds
  case retries =>
    intro hdue
    cases left with
    | done r =>
      obtain ht | ⟨-, ht | ht⟩ := hconforms
      · exact absurd hdue ht.settled
      · exact absurd hdue ht.settled
      · exact absurd hdue ht.settled
    | ask q next =>
      obtain ⟨transport, sink, rfl⟩ := hconforms.1.retry hdue
      exact ⟨transport, sink, next, rfl⟩
  case failed =>
    refine fun hfailed => ⟨hsound.unmeasured hfailed, ?_⟩
    rintro r rfl
    obtain ht | ⟨hr, -⟩ := hconforms
    · rw [ht.failed] at hfailed
      cases hfailed
    · exact hr
  case events => exact hsound.events
  case joined =>
    rintro r rfl
    obtain ht | ⟨-, ht | ht⟩ := hconforms
    · refine ⟨ht.owned, .inl ?_⟩
      rw [ht.events]
      exact ⟨rfl, rfl, rfl⟩
    · exact ⟨ht.owned, .inr ⟨ht.failed, ht.events⟩⟩
    · refine ⟨ht.owned, .inl ?_⟩
      rw [ht.events]
      exact ⟨rfl, rfl, rfl⟩
  case givenUp =>
    rintro q next rfl hawaits
    have howned := hconforms.1.owned hawaits
    obtain hnone | hrunning | hstopped | hjoined | hcourse := prefix_course_iff.1 hsound.events
    · exact .inl ⟨hnone, by rw [howned, hnone]; rfl⟩
    · exact .inr (.inl ⟨hrunning, by rw [howned, hrunning]; rfl⟩)
    · have hjoin := hconforms.1.join hawaits hstopped
      exact .inr (.inr (.inl ⟨hstopped, hjoin, by rw [howned, hstopped]; rfl⟩))
    · exact absurd hjoined (hconforms.1.ended hawaits)
    · exact .inr (.inr (.inr ⟨hcourse, by rw [howned, hcourse]; rfl⟩))

theorem Trace.owned_note {q : Request} (hq : ∀ owned, q ≠ .own owned) (answer : q.Answer)
    (t : Trace) : (t.note q answer).owned = t.owned := by
  cases q with
  | own owned => exact absurd rfl (hq owned)
  | _ => rfl

/-- Unless it is told what is owned, a machine gives a run up where it waits past the limit. -/
theorem giveUp_ask {q : Request} (hq : ∀ owned, q ≠ .own owned) (limit : Nat)
    (owned : Option BackgroundTask) (next : q.Answer → Run Report) (m : Offline) :
    m.giveUp limit owned (.ask q next) =
      let (answer, m') := Offline.answerRun q m
      if q.awaits && limit < m'.now then some (abandon owned)
      else m'.giveUp limit owned (next answer) := by
  cases q with
  | own owned => exact absurd rfl (hq owned)
  | _ => rfl

/-- Whoever gives a measurement up after some time does so at a moment of it where it waits, and
lets go of what it owns then. -/
theorem exists_moment_of_giveUp {limit : Nat} {m : Offline} {releases : List Release}
    (h : (p.measure budget).Reaches keeps (fun _ _ => False) {} left t)
    (hgiven : m.giveUp limit t.owned left = some releases) :
    ∃ q next t', (p.measure budget).Reaches keeps (fun _ _ => False) {} (.ask q next) t' ∧
      q.awaits ∧ releases = abandon t'.owned := by
  induction left generalizing t m with
  | done r => cases hgiven
  | ask q next ih =>
    by_cases hq : ∃ owned, q = .own owned
    · obtain ⟨owned, rfl⟩ := hq
      exact ih () (Reaches.ask h rfl) hgiven
    · have hother : ∀ owned, q ≠ .own owned := fun owned hown => hq ⟨owned, hown⟩
      rw [giveUp_ask hother] at hgiven
      generalize Offline.answerRun q m = answered at hgiven
      obtain ⟨answer, m'⟩ := answered
      dsimp only at hgiven
      split at hgiven
      next hover =>
        exact ⟨q, next, t, h, (Bool.and_eq_true_iff.1 hover).1, (Option.some.inj hgiven).symm⟩
      next =>
        rw [← t.owned_note hother answer] at hgiven
        exact ih answer (Reaches.ask h rfl) hgiven

section NoClient

/-- A probe that sends datagrams of eight bytes. -/
def datagramProbe : Probe := .throughput { transport := .udp, bufferSize := 8 }

/-- At some moment of a measurement this is left of it, and that is its trace. -/
def Comes (left : Run Report) (t : Trace) : Prop :=
  (datagramProbe.measure (Span.ofNanos 5)).Reaches keeps (fun _ _ => False) {} left t

theorem Comes.ask {q : Request} {next : q.Answer → Run Report} (h : Comes (.ask q next) t)
    (answer : q.Answer) : Comes (next answer) (t.note q answer) :=
  Reaches.ask h rfl

/-- The port is busy, another one is found, and then there is no socket for the client. The task is
joined, and in the end there is a report. -/
theorem comes_no_client : ∃ next t r t', Comes (.ask (.host .join) next) t ∧
    t.events = [.launched datagramProbe.task, .stopped] ∧ Comes (.done r) t' ∧
    t'.failed = true ∧ t'.binds = [(7, .error (.busy "in use")), (0, .ok ())] := by
  have begun : Comes (datagramProbe.measure (Span.ofNanos 5)) {} := .start
  have reported := begun.ask ()
  have reserved := reported.ask (Except.ok () : Except MemoryProblem Unit)
  have reserved := reserved.ask (Except.ok () : Except MemoryProblem Unit)
  have ported := reserved.ask (7 : Nat)
  have busy := ported.ask (Except.error (.busy "in use") : Except BindProblem Unit)
  have bound := busy.ask (Except.ok () : Except BindProblem Unit)
  have addressed := bound.ask (Except.ok (.loopback 9) : Except String Address)
  have moved := addressed.ask ()
  have launched := moved.ask ()
  have owned := launched.ask ()
  have paused := owned.ask ()
  have failed := paused.ask (Except.error (.refused "none left") : Except BindProblem Unit)
  have stopped := failed.ask ()
  have taken := stopped.ask ()
  have joined := taken.ask (some 0 : Option UInt64)
  have raised := joined.ask ()
  have gone := raised.ask ()
  exact ⟨_, _, _, _, taken, rfl, gone.ask (), rfl, rfl⟩

theorem measure_orderly_no_client : ∃ r t, Comes (.done r) t ∧ r = datagramProbe.failure ∧
    t.binds = [(7, .error (.busy "in use")), (0, .ok ())] ∧ Orderly datagramProbe (.done r) t := by
  obtain ⟨-, -, r, t, -, -, h, hfailed, hbinds⟩ := comes_no_client
  have horderly := Probe.measure_orderly h
  exact ⟨r, t, h, (horderly.failed hfailed).2 r rfl, hbinds, horderly⟩

/-- A measurement that is given up while it joins its task raises the flag, but aborts nothing. A
probe of round trips by datagrams that has a millisecond joins its task when twenty are over. -/
theorem measure_given_up_joining :
    (∃ next t, Comes (.ask (.host .join) next) t ∧ (Request.host .join).awaits ∧
      t.events = [.launched datagramProbe.task, .stopped] ∧
      abandon t.owned = [.raiseStop] ∧ .abort ∉ abandon t.owned) ∧
    Offline.giveUp 20000000 none
      ((Probe.latency (.standard .udp)).measure (Span.ofMillis 1)) {} = some [.raiseStop] := by
  constructor
  · obtain ⟨next, t, -, -, h, hevents, -⟩ := comes_no_client
    have howned := (sound_of_reaches h).1.1.owned rfl
    rw [hevents] at howned
    refine ⟨next, t, h, rfl, hevents, ?_⟩
    rw [howned]
    exact ⟨rfl, by decide⟩
  · decide +kernel

end NoClient

end LoopGauge.Engine
