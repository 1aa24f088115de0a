import LoopGauge.Proofs.Transfer.Traffic

/-!
# Conservation of bytes

The source counts what the network takes and the task counts what it is brought, each for itself. At
every moment of a measurement the two counters differ by what is under way and what was dropped, so
no result shows more bytes as transferred than as sent, however the measurement and the task end.

## Main definitions

* `ThroughputProbe.conclude`: what a probe does when it has sent all.
* `Traffic.Balanced`: the counters at a moment, and what they have to do with each other.

## Main statements

* `Traffic.kept_of_reaches`: the invariant holds at every moment.
* `Traffic.transfer_conserves_bytes`: the counters are balanced at every moment.
-/

namespace LoopGauge

namespace Dialogue

variable {Q : Type} {A : Q → Type} {α : Type} {gain : (q : Q) → A q → Nat} {shown : α → UInt64}

/-- A dialogue has counted one number only, if every question has an answer. -/
theorem Tallies.unique (hanswer : ∀ q, Nonempty (A q)) {d : Dialogue Q A α} {m n : UInt64}
    (hm : d.Tallies gain shown m) (hn : d.Tallies gain shown n) : m = n := by
  induction d generalizing m n with
  | done a => exact hm.symm.trans hn
  | ask q next ih =>
    obtain ⟨answer⟩ := hanswer q
    have h := ih answer (tallies_ask.1 hm answer) (tallies_ask.1 hn answer)
    simpa using h

end Dialogue

namespace Engine

open Dialogue

theorem Wire.nonempty_answer (w : Wire) : Nonempty w.Answer := by
  cases w with
  | clock => exact ⟨(0 : Nat)⟩
  | send data peer => exact ⟨(Except.ok 0 : Except String Nat)⟩
  | write data deadline => exact ⟨(Timed.expired : Timed Nat)⟩
  | read size deadline => exact ⟨(Timed.expired : Timed ByteArray)⟩
  | receive size deadline => exact ⟨(Timed.expired : Timed (ByteArray × Address))⟩

theorem Duty.nonempty_answer (q : Duty) : Nonempty q.Answer := by
  cases q with
  | isStopped => exact ⟨true⟩
  | accept deadline => exact ⟨(Timed.expired : Timed Unit)⟩
  | disableDelay => exact ⟨()⟩
  | wire w => exact w.nonempty_answer

theorem Request.nonempty_answer (q : Request) : Nonempty q.Answer := by
  cases q with
  | host h =>
    cases h with
    | wire w => exact w.nonempty_answer
    | nextPort => exact ⟨(0 : Nat)⟩
    | reserve bytes => exact ⟨(Except.ok () : Except MemoryProblem Unit)⟩
    | bindServer transport port sink => exact ⟨(Except.ok () : Except BindProblem Unit)⟩
    | bindClient => exact ⟨(Except.ok () : Except BindProblem Unit)⟩
    | disableDelay => exact ⟨(Except.ok () : Except String Unit)⟩
    | serverAddress => exact ⟨(Except.error "" : Except String Address)⟩
    | join => exact ⟨(none : Option UInt64)⟩
    | connect server limit => exact ⟨(Timed.expired : Timed Unit)⟩
    | _ => exact ⟨()⟩
  | openOperation name => exact ⟨""⟩
  | _ => exact ⟨()⟩

namespace ThroughputProbe

/-- What a probe does when it has sent all that there was time for. -/
def conclude (p : ThroughputProbe) (started : Nat) (sent : UInt64) : Run ThroughputResult := do
  let ended ← Run.clock
  Run.pause (Span.ofMillis Limits.drainMillis)
  let counted ← Run.stopAndJoin (.ofLaunched p.task)
  Run.closeClient
  let result := ThroughputResult.ofTransfer (counted.getD 0) sent (Span.ofNanos (ended - started))
  Run.report (.throughputResult p.subTest result)
  return result

open Ledger

variable {p : ThroughputProbe} {left : Run ThroughputResult} {l : Ledger} {sent : UInt64}

theorem conforms_conclude (p : ThroughputProbe) (started : Nat) (h : sent = l.sent) :
    (p.conclude started sent).Conforms note Allows Fits l := by
  refine conforms_ask_of_skips rfl fun ended => conforms_ask_of_skips trivial fun _ => ?_
  refine (Run.ledger_stopAndJoin p.task l).bind fun counted l' hstopped => ?_
  refine conforms_ask_of_skips trivial fun _ => conforms_ask_of_skips trivial fun _ => ?_
  exact ⟨h.trans hstopped.1.symm, .inr hstopped.2.symm⟩

/-- What conforms to a ledger has counted what was taken. -/
theorem tallies_of_conforms (h : left.Conforms note Allows Fits l) :
    left.Tallies Request.taken ThroughputResult.bytesSent l.sent :=
  h.read Ledger.sent (fun _ _ _ => trivial) sent_note fun _ _ hfits => hfits.1

end ThroughputProbe

namespace Traffic

variable {p : ThroughputProbe} {budget : Span} {left : Run ThroughputResult} {t t' : Traffic}
  {arrived : UInt64}

/-- The source has a ledger of what was taken of it, the task has counted what it was brought, and
no byte is missing. -/
structure Kept (left : Run ThroughputResult) (t : Traffic) (arrived : UInt64) : Prop where
  source : left.Conforms Ledger.note Ledger.Allows Ledger.Fits ⟨UInt64.ofNat t.handed, arrived⟩
  arrived : arrived.toNat ≤ t.handed
  sink : ∀ work, t.task = some work → work.Tallies Duty.brought id (UInt64.ofNat t.counted)
  lost : t.task = none → t.counted = 0
  conserves : t.Conserves

/-- An answer to the source leaves the task as it is, or launches one. -/
theorem Answered.task {q : Request} {answer : q.Answer} (h : Answered t q answer t') :
    (∃ task : Task, q = .host (.launch task) ∧ t'.task = some task.serve ∧ t'.counted = 0) ∨
      t'.task = t.task ∧ t'.counted = t.counted := by
  cases h with
  | launch => exact .inl ⟨_, rfl, rfl, rfl⟩
  | _ => exact .inr ⟨rfl, rfl⟩

/-- The task is brought something or nothing, is lost, or waits. -/
theorem Drifts.task (h : Drifts t t') :
    (∃ (q : Duty) (next : q.Answer → Work UInt64) (answer : q.Answer),
      t.task = some (.ask q next) ∧ t'.task = some (next answer) ∧
        t'.counted = t.counted + q.brought answer) ∨
      (t'.task = none ∧ t'.counted = 0) ∨ t'.task = t.task ∧ t'.counted = t.counted := by
  cases h with
  | read asks within brings => exact .inl ⟨_, _, _, asks, rfl, rfl⟩
  | receive asks comes => exact .inl ⟨_, _, _, asks, rfl, rfl⟩
  | idle asks vain => exact .inl ⟨_, _, _, asks, rfl, by rw [vain, Nat.add_zero]⟩
  | lose => exact .inr (.inl ⟨rfl, rfl⟩)
  | sever => exact .inr (.inr ⟨rfl, rfl⟩)
  | drop comes => exact .inr (.inr ⟨rfl, rfl⟩)

/-- What the source is told to have arrived was handed over before. -/
theorem Kept.arrived_note (hk : Kept left t arrived) {q : Request} {answer : q.Answer}
    (h : Answered t q answer t') :
    (Ledger.note q answer ⟨UInt64.ofNat t.handed, arrived⟩).arrived.toNat ≤ t.handed := by
  have hcounted : t.counted ≤ t.handed := by
    have := hk.conserves
    unfold Conserves at this
    omega
  cases h with
  | join finished =>
    -- The task shows in the end what it was brought.
    have htotal : _ = UInt64.ofNat t.counted := hk.sink _ finished
    refine Nat.le_trans (Nat.le_trans (Nat.le_of_eq (congrArg UInt64.toNat htotal)) ?_) hcounted
    exact Nat.mod_le _ _
  | joinLost lost => exact Nat.zero_le _
  | vain apart vain =>
    have hsame : (Ledger.note q answer ⟨UInt64.ofNat t.handed, arrived⟩).arrived = arrived := by
      cases q with
      | host h =>
        cases h with
        | join => exact absurd trivial apart
        | _ => rfl
      | _ => rfl
    rw [hsame]
    exact hk.arrived
  | write within => exact hk.arrived
  | send within => exact hk.arrived
  | launch => exact hk.arrived

theorem Kept.answered {q : Request} {next : q.Answer → Run ThroughputResult} {answer : q.Answer}
    (hk : Kept (.ask q next) t arrived) (h : Answered t q answer t') :
    ∃ arrived, Kept (next answer) t' arrived := by
  obtain ⟨hallows, hsource⟩ := hk.source
  have hledger : (Ledger.note q answer ⟨UInt64.ofNat t.handed, arrived⟩).sent =
      UInt64.ofNat t'.handed := by
    rw [Ledger.sent_note, h.handed, UInt64.ofNat_add]
  refine ⟨(Ledger.note q answer ⟨UInt64.ofNat t.handed, arrived⟩).arrived, ?_, ?_, ?_, ?_,
    h.conserves hk.conserves⟩
  · rw [← hledger]
    exact hsource answer
  · have hgrows : t.handed ≤ t'.handed := by
      rw [h.handed]
      exact Nat.le_add_right _ _
    exact Nat.le_trans (hk.arrived_note h) hgrows
  · intro work hwork
    obtain ⟨task, rfl, htask, hcounted⟩ | ⟨htask, hcounted⟩ := h.task
    · obtain rfl := Option.some.inj (htask.symm.trans hwork)
      rw [hcounted]
      exact Task.tallies_serve (hallows task rfl)
    · rw [hcounted]
      exact hk.sink work (htask ▸ hwork)
  · intro hnone
    obtain ⟨task, -, htask, -⟩ | ⟨htask, hcounted⟩ := h.task
    · rw [htask] at hnone
      cases hnone
    · exact hcounted.trans (hk.lost (htask ▸ hnone))

theorem Kept.drifts (hk : Kept left t arrived) (h : Drifts t t') : Kept left t' arrived := by
  refine ⟨h.handed ▸ hk.source, h.handed ▸ hk.arrived, ?_, ?_, h.conserves hk.conserves⟩
  · intro work hwork
    obtain ⟨q, next, answer, asks, htask, hcounted⟩ | ⟨htask, -⟩ | ⟨htask, hcounted⟩ := h.task
    · obtain rfl := Option.some.inj (htask.symm.trans hwork)
      rw [hcounted, UInt64.ofNat_add]
      exact tallies_ask.1 (hk.sink _ asks) answer
    · rw [htask] at hwork
      cases hwork
    · rw [hcounted]
      exact hk.sink work (htask ▸ hwork)
  · intro hnone
    obtain ⟨q, next, answer, -, htask, -⟩ | ⟨-, hcounted⟩ | ⟨htask, hcounted⟩ := h.task
    · rw [htask] at hnone
      cases hnone
    · exact hcounted
    · exact hcounted.trans (hk.lost (htask ▸ hnone))

theorem kept_of_reaches (h : (p.measure budget).Reaches Answered Drifts {} left t) :
    ∃ arrived, Kept left t arrived := by
  -- What has arrived is known only when the task is joined, so it is found on the way.
  induction h with
  | start =>
    refine ⟨0, p.conforms_measure budget, Nat.le_refl 0, nofun, fun _ => rfl, rfl⟩
  | turn before turn ih =>
    obtain ⟨arrived, hk⟩ := ih
    cases turn with
    | intro answered => exact hk.answered answered
  | drift before drift ih =>
    obtain ⟨arrived, hk⟩ := ih
    exact ⟨arrived, hk.drifts drift⟩

/-- What holds of the counters of source and sink at a moment of a measurement. -/
structure Balanced (p : ThroughputProbe) (left : Run ThroughputResult) (t : Traffic)
    (sent counted : UInt64) : Prop where
  /-- The source has counted so many bytes: in the end it shows these and what is taken from now
  on. -/
  source : ∀ total, left.Tallies Request.taken ThroughputResult.bytesSent total ↔ total = sent
  /-- So has the task. -/
  sink : ∀ work, t.task = some work →
    ∀ total, work.Tallies Duty.brought id total ↔ total = counted
  /-- Without a task, nothing is counted. -/
  lost : t.task = none → counted = 0
  /-- Before each turn of sending, the counter of the loop is the counter of the source. -/
  stream : ∀ started buffer deadline turns offset total,
    left = (Run.sendStream buffer deadline turns offset total >>= p.conclude started) →
      total = sent
  datagrams : ∀ started server buffer deadline turns rest total,
    left = (Run.sendDatagrams server buffer deadline turns rest total >>= p.conclude started) →
      total = sent
  /-- Before each turn of counting, the counter of the loop is the counter of the task. -/
  streamed : ∀ size turns total, t.task = some (Work.countStream size turns total) → total = counted
  received : ∀ size turns total,
    t.task = some (Work.countDatagrams size turns total) → total = counted
  /-- What the source has counted and the task has not is under way or was dropped. -/
  balance : sent.toNat = counted.toNat + t.inFlight + t.dropped
  /-- In the end the result shows what the source has counted, and not more as transferred. -/
  result : ∀ r, left = .done r → r.bytesSent = sent ∧ r.bytesTransferred ≤ r.bytesSent

theorem Kept.balanced (hk : Kept left t arrived) (hfits : t.handed < UInt64.size) :
    Balanced p left t (UInt64.ofNat t.handed) (UInt64.ofNat t.counted) := by
  have hsource := ThroughputProbe.tallies_of_conforms hk.source
  have hunique {total : UInt64} (h : left.Tallies Request.taken ThroughputResult.bytesSent total) :
      total = UInt64.ofNat t.handed :=
    h.unique Request.nonempty_answer hsource
  have hcounts {work : Work UInt64} {total : UInt64} (hwork : t.task = some work)
      (h : work.Tallies Duty.brought id total) : total = UInt64.ofNat t.counted :=
    h.unique Duty.nonempty_answer (hk.sink work hwork)
  have hconserves : t.handed = t.counted + t.inFlight + t.dropped := hk.conserves
  have hhanded : (UInt64.ofNat t.handed).toNat = t.handed := UInt64.toNat_ofNat_of_lt' hfits
  have hcounted : (UInt64.ofNat t.counted).toNat = t.counted := by
    refine UInt64.toNat_ofNat_of_lt' (Nat.lt_of_le_of_lt ?_ hfits)
    omega
  constructor
  case source => exact fun total => ⟨hunique, fun h => h ▸ hsource⟩
  case sink => exact fun work hwork total => ⟨hcounts hwork, fun h => h ▸ hk.sink work hwork⟩
  case lost => exact fun hnone => congrArg UInt64.ofNat (hk.lost hnone)
  case stream =>
    intro started buffer deadline turns offset total hleft
    have hloop := Run.conforms_sendStream (l := ⟨total, 0⟩) buffer deadline turns offset rfl
    have hrest := hloop.bind fun _ _ h => p.conforms_conclude started h
    exact hunique (hleft ▸ ThroughputProbe.tallies_of_conforms hrest)
  case datagrams =>
    intro started server buffer deadline turns rest total hleft
    have hloop :=
      Run.conforms_sendDatagrams (l := ⟨total, 0⟩) server buffer deadline turns rest rfl
    have hrest := hloop.bind fun _ _ h => p.conforms_conclude started h
    exact hunique (hleft ▸ ThroughputProbe.tallies_of_conforms hrest)
  case streamed =>
    exact fun size turns total hwork => hcounts hwork (Work.tallies_countStream size turns rfl)
  case received =>
    exact fun size turns total hwork => hcounts hwork (Work.tallies_countDatagrams size turns rfl)
  case balance => rw [hhanded, hcounted, hconserves]
  case result =>
    rintro r rfl
    obtain ⟨hsent, harrived⟩ := hk.source
    refine ⟨hsent, UInt64.le_iff_toNat_le.2 ?_⟩
    rw [hsent]
    obtain hzero | hall := harrived
    · rw [hzero]
      exact Nat.zero_le _
    · rw [hall]
      exact Nat.le_trans hk.arrived (Nat.le_of_eq hhanded.symm)

/-- **Conservation of bytes**: at every moment of a measurement of transfer rates, what the source
has counted is what the task has counted, what is under way and what was dropped. -/
theorem transfer_conserves_bytes
    (h : (p.measure budget).Reaches Answered Drifts {} left t)
    (hfits : t.handed < UInt64.size) : ∃ sent counted, Balanced p left t sent counted := by
  obtain ⟨arrived, hk⟩ := kept_of_reaches h
  exact ⟨_, _, hk.balanced hfits⟩

section PartRead

/-- A probe that writes three bytes at a time. -/
def smallProbe : ThroughputProbe where
  transport := .tcp
  bufferSize := 3

/-- At some moment of a measurement this is left of it, and the network is like that. -/
def Meets (left : Run ThroughputResult) (t : Traffic) : Prop :=
  (smallProbe.measure (Span.ofNanos 5)).Reaches Answered Drifts {} left t

theorem Meets.vain {q : Request} {next : q.Answer → Run ThroughputResult}
    (h : Meets (.ask q next) t) (answer : q.Answer) (apart : ¬ConcernsTask q)
    (vain : q.taken answer = 0) : Meets (next answer) t :=
  Reaches.ask h (.vain apart vain)

theorem Meets.idle (h : Meets left t) {q : Duty} {next : q.Answer → Work UInt64}
    (asks : t.task = some (.ask q next)) (answer : q.Answer) (vain : q.brought answer = 0) :
    Meets left { t with task := some (next answer) } :=
  Reaches.drift h (.idle asks vain)

/-- The task gets a client. -/
theorem Meets.accepts (h : Meets left t) {turns : Nat} {f : Bool → Work UInt64}
    (htask : t.task = some (Work.awaitClient (turns + 1) >>= f)) :
    Meets left { t with task := some (f true) } := by
  have calling := h.idle htask false rfl
  have accepting := calling.idle rfl (0 : Nat) rfl
  exact accepting.idle rfl (Timed.ready () : Timed Unit) rfl

/-- The task reads a piece of the stream. -/
theorem Meets.counts (h : Meets left t) {size turns : Nat} {total : UInt64} {data : ByteArray}
    {stream : Pipe} (htask : t.task = some (Work.countStream size (turns + 1) total))
    (hdata : data.size ≠ 0) (within : data.size ≤ size)
    (brings : t.stream.Brings (bytesOf data) stream) :
    Meets left { t with
      task := some (Work.countStream size turns (total + UInt64.ofNat data.size))
      stream := stream
      counted := t.counted + data.size } := by
  have timing := h.idle htask false rfl
  have reading := timing.idle rfl (0 : Nat) rfl
  have hread : Meets left _ := Reaches.drift reading (.read rfl within brings)
  have hrest : (if data.size = 0 then pure total
      else Work.countStream size turns (total + UInt64.ofNat data.size)) =
      Work.countStream size turns (total + UInt64.ofNat data.size) := if_neg hdata
  rw [← hrest]
  exact hread

/-- The source has written three bytes, of which the task has read two. -/
theorem meets_part_read : ∃ left t turns, Meets left t ∧
    left = (Run.sendStream (filled 3 transferFiller) 5 (turns + 1) 0 3 >>=
      smallProbe.conclude 0) ∧
    t.task = some (Work.countStream 3 (turns + 1) 2) ∧ t.handed = 3 ∧ t.inFlight = 1 := by
  have begun : Meets (smallProbe.measure (Span.ofNanos 5)) {} := .start
  have reported := begun.vain () id rfl
  have reserved := reported.vain (Except.ok () : Except MemoryProblem Unit) id rfl
  have reserved := reserved.vain (Except.ok () : Except MemoryProblem Unit) id rfl
  have ported := reserved.vain (7 : Nat) id rfl
  have bound := ported.vain (Except.ok () : Except BindProblem Unit) id rfl
  have addressed := bound.vain (Except.ok (.loopback 7) : Except String Address) id rfl
  have launched : Meets _ { task := some (Task.serve ⟨.tcp, .sink, 3⟩) } :=
    Reaches.ask addressed .launch
  have owned := launched.vain () id rfl
  have paused := owned.vain () id rfl
  have connected := paused.vain (Timed.ready () : Timed Unit) id rfl
  have started := connected.vain (0 : Nat) id rfl
  have timed := started.vain (0 : Nat) id rfl
  have looked := timed.vain (0 : Nat) id rfl
  have written : Meets _
      { task := some (Task.serve ⟨.tcp, .sink, 3⟩)
        stream := ⟨[], [0xa5, 0xa5, 0xa5]⟩
        handed := 3 } :=
    Reaches.ask looked (@Answered.write _ _ _ 3 (by decide))
  have accepted := @Meets.accepts _ _ written 18446744073709551614 _ rfl
  rw [if_pos rfl] at accepted
  have counted := @Meets.counts _ _ accepted _ _ _ ⟨#[0xa5, 0xa5]⟩ ⟨[0xa5, 0xa5], [0xa5]⟩ rfl
    (by decide) (by decide) ⟨rfl, rfl⟩
  refine ⟨_, _, 18446744073709551613, counted, ?_, rfl, rfl, rfl⟩
  change (((((Run.sendStream _ _ 18446744073709551614 _ _ >>= _) >>= _) >>= _) >>= _) >>= _) = _
  simp only [Dialogue.bind_bind]
  rfl

/-- The task then looks at its stop flag, and the source joins it. -/
theorem meets_end : ∃ r t, Meets (.done r) t ∧ r.bytesSent = 3 ∧ r.bytesTransferred = 2 := by
  obtain ⟨left, t, turns, h, rfl, htask, -, -⟩ := meets_part_read
  have late := h.vain (5 : Nat) id rfl
  have ended := late.vain (5 : Nat) id rfl
  have drained := ended.vain () id rfl
  have raised := drained.vain () id rfl
  have handed := raised.vain () id rfl
  have stopped := handed.idle htask true rfl
  have joined : Meets _ _ := Reaches.ask stopped (.join rfl)
  have dropped := (joined.vain () id rfl).vain () id rfl
  have closed := dropped.vain () id rfl
  exact ⟨_, _, closed.vain () id rfl, rfl, rfl⟩

theorem transfer_conserves_bytes_part_read :
    (∃ left t, Meets left t ∧ t.handed < UInt64.size ∧ t.inFlight = 1 ∧
      Balanced smallProbe left t 3 2) ∧
    ∃ r t, Meets (.done r) t ∧ r.bytesSent = 3 ∧ r.bytesTransferred = 2 := by
  refine ⟨?_, meets_end⟩
  obtain ⟨left, t, turns, h, hleft, htask, hhanded, hflight⟩ := meets_part_read
  have hfits : t.handed < UInt64.size := by
    rw [hhanded]
    decide
  obtain ⟨sent, counted, hbalanced⟩ := transfer_conserves_bytes h hfits
  obtain rfl := hbalanced.stream _ _ _ _ _ _ hleft
  obtain rfl := hbalanced.streamed _ _ _ htask
  exact ⟨left, t, h, hfits, hflight, hbalanced⟩

end PartRead

end Traffic

end Engine

end LoopGauge
