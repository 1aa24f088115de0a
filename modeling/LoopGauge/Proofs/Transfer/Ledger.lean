import LoopGauge.Proofs.Measurement.Questions

/-!
# The ledger of a transfer

What the network has taken of the source, and what it has brought to the sink, is told to them in
the answers to their questions. Each counts what it is told, and nothing else: the number that it
has in the end is what it was told in all.

## Main definitions

* `Wire.taken`, `Wire.brought`: the bytes of an answer that went out, or came in.
* `Dialogue.Tallies`: a dialogue counts what it is told.
* `Ledger`: what a source was told.

## Main statements

* `Task.tallies_serve`: the sink counts what is brought.
* `ThroughputProbe.conforms_measure`: the result of a probe is what its ledger says.
-/

namespace LoopGauge

namespace Dialogue

variable {Q : Type} {A : Q → Type} {α : Type}

/-- A dialogue has counted a number of bytes so far: whatever it is told from now on, its result
shows that number and all that it is told besides. -/
def Tallies (gain : (q : Q) → A q → Nat) (shown : α → UInt64) (d : Dialogue Q A α)
    (total : UInt64) : Prop :=
  d.Conforms (fun q answer total => total + UInt64.ofNat (gain q answer)) (fun _ _ => True)
    (fun a total => shown a = total) total

variable {gain : (q : Q) → A q → Nat} {shown : α → UInt64} {total : UInt64}

theorem tallies_ask {q : Q} {next : A q → Dialogue Q A α} :
    (ask q next).Tallies gain shown total ↔
      ∀ answer, (next answer).Tallies gain shown (total + UInt64.ofNat (gain q answer)) :=
  and_iff_right trivial

/-- A question that brings nothing leaves the number as it is. -/
theorem tallies_ask_quiet {q : Q} {next : A q → Dialogue Q A α} (hq : ∀ answer, gain q answer = 0)
    (h : ∀ answer, (next answer).Tallies gain shown total) :
    (ask q next).Tallies gain shown total := by
  rw [tallies_ask]
  intro answer
  have hsame : total + UInt64.ofNat (gain q answer) = total := by simp [hq]
  rw [hsame]
  exact h answer

end Dialogue

namespace Engine

namespace Wire

/-- How many bytes of the party the network has taken. -/
def taken : (w : Wire) → w.Answer → Nat
  | write _ _, (Timed.ready count : Timed Nat) => count
  | send _ _, (Except.ok count : Except String Nat) => count
  | _, _ => 0

/-- How many bytes the network has brought to the party. -/
def brought : (w : Wire) → w.Answer → Nat
  | read _ _, (Timed.ready data : Timed ByteArray) => data.size
  | receive _ _, (Timed.ready (data, _) : Timed (ByteArray × Address)) => data.size
  | _, _ => 0

end Wire

/-- How many bytes of the source the network has taken. -/
def Request.taken : (q : Request) → q.Answer → Nat
  | .host (.wire w), answer => w.taken answer
  | _, _ => 0

/-- How many bytes the network has brought to a task. -/
def Duty.brought : (q : Duty) → q.Answer → Nat
  | .wire w, answer => w.brought answer
  | _, _ => 0

/-- What a source was told: how many bytes were taken, and how many the task has counted. -/
structure Ledger where
  sent : UInt64 := 0
  arrived : UInt64 := 0

namespace Ledger

/-- The ledger when a question has been answered. -/
def note : (q : Request) → q.Answer → Ledger → Ledger
  | .host .join, (counted : Option UInt64), l => { l with arrived := counted.getD 0 }
  | q, answer, l => { l with sent := l.sent + UInt64.ofNat (q.taken answer) }

/-- Only a task that counts may be launched. -/
def Allows (q : Request) (_ : Ledger) : Prop :=
  ∀ task, q = .host (.launch task) → task.service = .sink

/-- A result shows what was taken. Of what has arrived it shows all, or nothing. -/
def Fits (r : ThroughputResult) (l : Ledger) : Prop :=
  r.bytesSent = l.sent ∧ (r.bytesTransferred = 0 ∨ r.bytesTransferred = l.arrived)

theorem sent_note (q : Request) (answer : q.Answer) (l : Ledger) :
    (l.note q answer).sent = l.sent + UInt64.ofNat (q.taken answer) := by
  cases q with
  | host h =>
    cases h with
    | join => simp [note, Request.taken]
    | _ => rfl
  | _ => rfl

/-- Questions that the ledger takes no note of. -/
def Skips : Request → Prop
  | .host (.wire w) => w = .clock
  | .host (.launch _) | .host .join => False
  | _ => True

theorem skips_of_setsUp {q : Request} (h : q.SetsUp) : Skips q := by
  cases q with
  | host question =>
    cases question with
    | wire | launch | join => exact h.elim
    | _ => trivial
  | _ => trivial

variable {l : Ledger} {α : Type}

theorem allows_of_skips {q : Request} (h : Skips q) : Allows q l := by
  rintro task rfl
  exact h.elim

theorem note_of_skips {q : Request} (answer : q.Answer) (h : Skips q) : note q answer l = l := by
  have hzero : (⟨l.sent + UInt64.ofNat 0, l.arrived⟩ : Ledger) = l := by simp
  cases q with
  | host h' =>
    cases h' with
    | wire w =>
      obtain rfl : w = .clock := h
      exact hzero
    | launch task => exact h.elim
    | join => exact h.elim
    | _ => exact hzero
  | _ => exact hzero

/-- The set-up of a measurement is not in the ledger. -/
theorem conforms_of_setsUp {d : Run α} {ends : α → Ledger → Prop} (hd : d.Only Request.SetsUp)
    (hends : ∀ a, ends a l) : d.Conforms note Allows ends l :=
  .of_only hd (fun _ h => allows_of_skips (skips_of_setsUp h))
    (fun _ answer h => note_of_skips answer (skips_of_setsUp h)) hends

theorem conforms_ask_of_skips {q : Request} {next : q.Answer → Run α} {ends : α → Ledger → Prop}
    (hq : Skips q) (h : ∀ answer, (next answer).Conforms note Allows ends l) :
    (Dialogue.ask q next).Conforms note Allows ends l := by
  refine ⟨allows_of_skips hq, fun answer => ?_⟩
  rw [note_of_skips answer hq]
  exact h answer

end Ledger

namespace Work

open Dialogue

theorem tallies_countStream (size turns : Nat) {total count : UInt64} (h : total = count) :
    (countStream size turns total).Tallies Duty.brought id count := by
  induction turns generalizing total count with
  | zero => exact h
  | succ turns ih =>
    subst h
    -- What a timed-out or failed read adds.
    have hnone : total = total + UInt64.ofNat 0 := (UInt64.add_zero total).symm
    refine tallies_ask_quiet (fun _ => rfl) fun (stopped : Bool) => ?_
    cases stopped with
    | true => rfl
    | false =>
      refine tallies_ask_quiet (fun _ => rfl) fun now => ?_
      refine tallies_ask.2 fun (answer : Timed ByteArray) => ?_
      cases answer with
      | ready data =>
        change Dialogue.Tallies _ _ (if data.size = 0 then _ else _)
          (total + UInt64.ofNat data.size)
        split
        next hempty =>
          rw [hempty]
          exact hnone
        next => exact ih rfl
      | failed cause => exact hnone
      | expired => exact ih hnone

theorem tallies_countDatagrams (size turns : Nat) {total count : UInt64} (h : total = count) :
    (countDatagrams size turns total).Tallies Duty.brought id count := by
  induction turns generalizing total count with
  | zero => exact h
  | succ turns ih =>
    subst h
    have hnone : total = total + UInt64.ofNat 0 := (UInt64.add_zero total).symm
    refine tallies_ask_quiet (fun _ => rfl) fun (stopped : Bool) => ?_
    cases stopped with
    | true => rfl
    | false =>
      refine tallies_ask_quiet (fun _ => rfl) fun now => ?_
      refine tallies_ask.2 fun (answer : Timed (ByteArray × Address)) => ?_
      cases answer with
      | ready datagram => exact ih rfl
      | failed cause => exact ih hnone
      | expired => exact ih hnone

/-- Waiting for a client, a task is brought nothing. -/
theorem tallies_awaitClient_bind (turns : Nat) {f : Bool → Work UInt64} {total : UInt64}
    (hf : ∀ found, (f found).Tallies Duty.brought id total) :
    (awaitClient turns >>= f).Tallies Duty.brought id total := by
  induction turns with
  | zero => exact hf false
  | succ turns ih =>
    refine tallies_ask_quiet (fun _ => rfl) fun (stopped : Bool) => ?_
    cases stopped with
    | true => exact hf false
    | false =>
      refine tallies_ask_quiet (fun _ => rfl) fun now => ?_
      refine tallies_ask_quiet (fun _ => rfl) fun (answer : Timed Unit) => ?_
      cases answer with
      | ready client => exact hf true
      | failed cause => exact hf false
      | expired => exact ih

end Work

/-- The sink counts what is brought. -/
theorem Task.tallies_serve {t : Task} (h : t.service = .sink) :
    t.serve.Tallies Duty.brought id 0 := by
  obtain ⟨transport, service, size⟩ := t
  obtain rfl : service = .sink := h
  cases transport with
  | tcp =>
    simp only [serve]
    refine Work.tallies_awaitClient_bind patience fun found => ?_
    cases found with
    | true => exact Work.tallies_countStream size patience rfl
    | false => rfl
  | udp =>
    simp only [serve]
    exact Work.tallies_countDatagrams size patience rfl

namespace Run

open Ledger

variable {l : Ledger}

theorem conforms_sendStream (buffer : ByteArray) (deadline turns offset : Nat) {sent : UInt64}
    (h : sent = l.sent) :
    (sendStream buffer deadline turns offset sent).Conforms note Allows
      (fun sent l => sent = l.sent) l := by
  induction turns generalizing offset sent l with
  | zero => exact h
  | succ turns ih =>
    subst h
    have hnone : l.sent = l.sent + UInt64.ofNat 0 := (UInt64.add_zero l.sent).symm
    refine conforms_ask_of_skips rfl fun (now : Nat) => ?_
    change Dialogue.Conforms _ _ _ (if deadline ≤ now then _ else _) _
    split
    · rfl
    · refine ⟨nofun, fun (answer : Timed Nat) => ?_⟩
      cases answer with
      | ready count =>
        cases count with
        | zero => exact conforms_ask_of_skips trivial fun _ => hnone
        | succ more => exact ih _ rfl
      | failed cause => exact conforms_ask_of_skips trivial fun _ => hnone
      | expired => exact hnone

theorem conforms_sendDatagrams (server : Address) (buffer : ByteArray) (deadline turns left : Nat)
    {sent : UInt64} (h : sent = l.sent) :
    (sendDatagrams server buffer deadline turns left sent).Conforms note Allows
      (fun sent l => sent = l.sent) l := by
  induction turns generalizing left sent l with
  | zero => exact h
  | succ turns ih =>
    subst h
    have hnone : l.sent = l.sent + UInt64.ofNat 0 := (UInt64.add_zero l.sent).symm
    refine conforms_ask_of_skips rfl fun (now : Nat) => ?_
    change Dialogue.Conforms _ _ _ (if deadline ≤ now then _ else _) _
    split
    · rfl
    · refine ⟨nofun, fun (answer : Except String Nat) => ?_⟩
      cases left with
      | zero =>
        refine conforms_ask_of_skips trivial fun _ => ih _ ?_
        cases answer with
        | ok count => rfl
        | error cause => exact hnone
      | succ left =>
        refine ih left ?_
        cases answer with
        | ok count => rfl
        | error cause => exact hnone

theorem ledger_spawn {task : Task} (htask : task.service = .sink) (hl : l.sent = 0) :
    (spawn task).Conforms note Allows (fun b l => b = .ofLaunched task ∧ l.sent = 0) l := by
  refine ⟨fun task' h => ?_, fun _ => conforms_ask_of_skips trivial fun _ => ⟨rfl, ?_⟩⟩
  · cases h
    exact htask
  · change l.sent + UInt64.ofNat 0 = 0
    rw [hl]
    rfl

/-- The ledger says what the task has counted. It takes no note of the flag, nor of who owns what. -/
theorem ledger_stopAndJoin (task : Task) (l : Ledger) :
    (stopAndJoin (.ofLaunched task)).Conforms note Allows
      (fun counted l' => l'.sent = l.sent ∧ l'.arrived = counted.getD 0) l := by
  refine conforms_ask_of_skips trivial fun _ => conforms_ask_of_skips trivial fun _ => ?_
  refine ⟨nofun, fun counted => ?_⟩
  refine conforms_ask_of_skips trivial fun _ => conforms_ask_of_skips trivial fun _ => ?_
  exact ⟨rfl, rfl⟩

end Run

/-- What a measurement with a task brings, by the ledger: what the client says was taken, and the
task has counted what arrived. Nothing is taken if there is no client. -/
def Ledger.Settles {α : Type} (shown : α → UInt64) :
    Except Fault (α × Option UInt64) → Ledger → Prop
  | .ok (a, counted), l => shown a = l.sent ∧ l.arrived = counted.getD 0
  | .error _, l => l.sent = 0

open Ledger Dialogue

theorem Attempt.ledger_withTask {α : Type} {test : SubTest} {task : Task}
    {measure : Address → Run α} {shown : α → UInt64} {l : Ledger} (htask : task.service = .sink)
    (hmeasure : ∀ server l, l.sent = 0 →
      (measure server).Conforms note Allows (fun a l => shown a = l.sent) l) (hl : l.sent = 0) :
    (withTask test task measure).run.Conforms note Allows (Settles shown) l := by
  have hserver : (openServer test).run.Conforms note Allows (fun _ l => l.sent = 0) l :=
    conforms_of_setsUp (only_openServer test) fun _ => hl
  refine hserver.attempt_bind (fun server l hl => ?_) fun _ _ hl => hl
  refine (Run.ledger_spawn htask hl).lift_bind fun background l hspawned => ?_
  obtain ⟨rfl, hl⟩ := hspawned
  refine conforms_ask_of_skips trivial fun _ => ?_
  have hclient : (openClient test server).run.Conforms note Allows (fun _ l => l.sent = 0) l :=
    conforms_of_setsUp (only_openClient test server) fun _ => hl
  refine hclient.lift_bind fun client l hl => ?_
  cases client with
  | error fault =>
    refine (Run.ledger_stopAndJoin task l).lift_bind fun counted l' hstopped => ?_
    exact hstopped.1.trans hl
  | ok _ =>
    refine (hmeasure server l hl).lift_bind fun a l ha => ?_
    refine (Run.ledger_stopAndJoin task l).lift_bind fun counted l' hstopped => ?_
    refine conforms_ask_of_skips trivial fun _ => ?_
    exact ⟨ha.trans hstopped.1.symm, hstopped.2⟩

namespace ThroughputProbe

variable (p : ThroughputProbe) (budget : Span)

/-- The transfer returns the number of bytes that were taken. -/
theorem conforms_transfer (server : Address) (l : Ledger) (hl : l.sent = 0) :
    (p.transfer budget server).Conforms note Allows (fun r l => r.1 = l.sent) l := by
  obtain ⟨transport, size, logger⟩ := p
  refine conforms_ask_of_skips rfl fun started => ?_
  refine conforms_ask_of_skips rfl fun now => ?_
  cases transport with
  | tcp =>
    refine (Run.conforms_sendStream _ _ patience 0 hl.symm).bind fun sent l hsent => ?_
    exact conforms_ask_of_skips rfl fun ended => conforms_ask_of_skips trivial fun _ => hsent
  | udp =>
    refine (Run.conforms_sendDatagrams server _ _ patience (burst - 1) hl.symm).bind
      fun sent l hsent => ?_
    exact conforms_ask_of_skips rfl fun ended => conforms_ask_of_skips trivial fun _ => hsent

theorem conforms_attempt :
    (p.attempt budget).run.Conforms note Allows
      (fun r l => match r with | .ok result => Fits result l | .error _ => l.sent = 0) {} := by
  have hreserve (l : Ledger) (hl : l.sent = 0) :
      (Attempt.reserve p.bufferSize.toNat).run.Conforms note Allows (fun _ l => l.sent = 0) l :=
    conforms_of_setsUp (Attempt.only_reserve p.bufferSize.toNat) fun _ => hl
  refine (hreserve {} rfl).attempt_bind (fun _ l hl => ?_) fun _ _ hl => hl
  refine (hreserve l hl).attempt_bind (fun _ l hl => ?_) fun _ _ hl => hl
  have htransfer : (Attempt.withTask p.subTest p.task (p.transfer budget)).run.Conforms note
      Allows (Settles Prod.fst) l :=
    Attempt.ledger_withTask rfl (p.conforms_transfer budget) hl
  refine htransfer.attempt_bind (fun r l hsettles => ?_) fun _ _ hl => hl
  exact ⟨hsettles.1, .inr hsettles.2.symm⟩

/-- The result of a probe is what its ledger says. -/
theorem conforms_measure : (p.measure budget).Conforms note Allows Fits {} := by
  refine conforms_ask_of_skips trivial fun _ => ?_
  refine (p.conforms_attempt budget).bind fun r l hl => ?_
  cases r with
  | ok result => exact conforms_ask_of_skips trivial fun _ => hl
  | error fault => exact conforms_ask_of_skips trivial fun _ => ⟨hl.symm, .inl rfl⟩

end ThroughputProbe

end Engine

end LoopGauge
