import LoopGauge.Proofs.Session.Stages
import LoopGauge.Proofs.Transcript

/-!
# Stages that leave standard output alone

What a session writes is found in its transcript. If standard output is kept for a document, a
record of whatever level goes to standard error, and so nothing that is done on the way to a
document or during its run writes to standard output.

## Main definitions

* `written`: the texts that were written to a stream.
* `Request.Silent`, `Request.Idle`: questions that write nothing to standard output, and of these
  the ones outside of a run.
* `Stage.Only`: all questions of a stage are of a kind.

## Main statements

* `Step.only_answer`: what is recorded of a run leaves standard output alone.
* `written_of_record`: a record is written to standard error.
-/

namespace LoopGauge.Session

open Dialogue Text

/-- The texts that were written to a stream, in order. -/
def written (s : Stream) (log : Transcript Request.Answer) : List String :=
  log.filterMap fun turn =>
    match turn.1 with
    | .write t text => if t = s then some text else none
    | _ => none

theorem written_append (s : Stream) (log log' : Transcript Request.Answer) :
    written s (log ++ log') = written s log ++ written s log' :=
  List.filterMap_append

namespace Request

/-- Nothing is written to standard output. -/
def Silent (q : Request) : Prop := ∀ text, q ≠ .write .output text

/-- Nothing is written to standard output, and no run is under way. -/
structure Idle (q : Request) : Prop where
  silent : q.Silent
  unrun : ∀ h, q ≠ .host h

theorem silent_host (h : Engine.Host) : (host h).Silent := nofun

theorem idle_error (text : String) : (write .error text).Idle := ⟨nofun, nofun⟩

theorem idle_moment : moment.Idle := ⟨nofun, nofun⟩

theorem idle_freshId : freshId.Idle := ⟨nofun, nofun⟩

theorem idle_lookUp (path : RawText) : (lookUp path).Idle := ⟨nofun, nofun⟩

end Request

/-- Silent questions leave standard output as it is. -/
theorem written_output_of_silent {log : Transcript Request.Answer}
    (h : ∀ turn ∈ log, turn.1.Silent) : written .output log = [] := by
  rw [written, List.filterMap_eq_nil_iff]
  intro turn hturn
  have hsilent := h turn hturn
  obtain ⟨q, answer⟩ := turn
  cases q with
  | write s text =>
    cases s with
    | output => exact absurd rfl (hsilent text)
    | error => rfl
  | _ => rfl

variable {P : Request → Prop} {α β : Type}

namespace Stage

/-- All questions of a stage are of a kind. -/
def Only (P : Request → Prop) (x : Stage α) : Prop := Dialogue.Only P x.run

theorem only_pure (a : α) : Only P (pure a : Stage α) := trivial

theorem only_step {s : Step α} (h : s.Only P) : Only P (step s) :=
  h.map Except.ok

theorem only_ofExcept {ε : Type} (halt : ε → Halt) (known : Except ε α) :
    Only P (ofExcept halt known) := trivial

theorem Only.bind {x : Stage α} {f : α → Stage β} (hx : Only P x) (hf : ∀ a, Only P (f a)) :
    Only P (x >>= f) :=
  Dialogue.Only.attempt_bind hx hf

theorem Only.silent {x : Stage α} (hx : Only Request.Idle x) : Only Request.Silent x :=
  Dialogue.Only.mono (fun _ => Request.Idle.silent) hx

theorem only_forM {f : α → Stage Unit} (hf : ∀ a, Only P (f a)) (as : List α) :
    Only P (as.forM f) := by
  induction as with
  | nil => exact only_pure ()
  | cons a as ih => exact (hf a).bind fun _ => ih

end Stage

namespace Step

open Log Request

/-- The stream of a record, if standard output is kept for a document. -/
theorem stream_of_write {l : Logger} (h : l.errorOnly) {c : Context} {moment : Time.Moment}
    {d : Draft} {s : Stream} {line : String} (hwrite : l.write c moment d = some (s, line)) :
    s = .error := by
  obtain ⟨-, heq⟩ := Option.ite_none_right_eq_some.1 hwrite
  obtain ⟨rfl, -⟩ := Prod.mk.inj (Option.some.inj heq)
  rw [Logger.stream, h]
  rfl

theorem only_record {l : Logger} (h : l.errorOnly) (c : Context) (d : Draft) :
    (record l c d).Only Idle := by
  refine (only_request idle_moment).bind fun moment => ?_
  split
  next s line hwrite =>
    obtain rfl := stream_of_write h hwrite
    exact only_request (idle_error _)
  next => trivial

/-- What is recorded of a run leaves standard output alone. -/
theorem only_answer {l : Logger} (h : l.errorOnly) (q : Engine.Request) (c : Context) :
    ((answer l q).run c).Only Silent := by
  have hrecord (c : Context) (d : Draft) : (record l c d).Only Silent :=
    (only_record h c d).mono fun _ => Idle.silent
  cases q with
  | host question => exact ⟨silent_host question, fun _ => trivial⟩
  | report e => exact (hrecord c e.draft).bind fun _ => trivial
  | openOperation name =>
    exact (only_request idle_freshId.silent).bind fun id => (hrecord _ _).bind fun _ => trivial
  | closeOperation id name success => exact (hrecord c _).bind fun _ => trivial
  | own owned => trivial

theorem only_conduct {o : Engine.Orchestrator} (h : o.logger.errorOnly) (c : Context) :
    (conduct o c).Only Silent := by
  rw [conduct_eq]
  exact (only_run (fun q c => only_answer h q c) o.plan.run c).map Prod.fst

end Step

namespace Prepared

variable {p : Prepared}

theorem only_note (hjson : p.settings.json) (level : Log.Level) (line : Nat) (message : String) :
    Stage.Only Request.Idle (p.note level line message) :=
  Stage.only_step (Step.only_record hjson _ _)

end Prepared

namespace Invocation

theorem only_say (text : String) : Stage.Only Request.Idle (Stage.say text) :=
  Stage.only_step (only_request (Request.idle_error text))

theorem only_prepare (i : Invocation) : Stage.Only Request.Idle i.prepare := by
  refine (Stage.only_step (only_request (Request.idle_lookUp _))).bind fun found => ?_
  have hrest : Stage.Only Request.Idle (do
      let r := resolve i.commandLine i.env found
      let settings ← Stage.ofExcept (Halt.ofStop (i.ink r.env)) r.settings
      let advice ← Stage.ofExcept (fun p => .fault p.fault (i.ink r.env)) settings.review
      let session ← Stage.step Step.freshId
      return (⟨settings, advice, i.ink r.env, session⟩ : Prepared)) := by
    refine (Stage.only_ofExcept _ _).bind fun settings => ?_
    refine (Stage.only_ofExcept _ _).bind fun advice => ?_
    exact (Stage.only_step (only_request Request.idle_freshId)).bind fun session => trivial
  dsimp only
  split
  · exact (only_say _).bind fun _ => hrest
  · exact hrest

theorem only_checkEnvFile (i : Invocation) {p : Prepared} (hjson : p.settings.json) :
    Stage.Only Request.Idle (i.checkEnvFile p) := by
  refine (Stage.only_step (only_request (Request.idle_lookUp _))).bind fun found => ?_
  refine (Stage.only_ofExcept _ _).bind fun warnings => ?_
  split
  · exact Stage.only_pure ()
  · exact Stage.only_forM (fun w => p.only_note hjson _ _ _) _

end Invocation

variable {W : Type} {answers : Answers W Request.Answer}
  {before after : W × Transcript Request.Answer}

/-- What a stage whose questions are of a kind adds to the transcript. -/
theorem Stage.Only.transcript {x : Stage α} (hx : Only P x) {r : Except Halt α}
    (h : x.run.Yields answers.transcribed before r after) :
    ∃ added, after.2 = before.2 ++ added ∧ ∀ turn ∈ added, P turn.1 :=
  Dialogue.Only.transcript hx h

theorem Stage.Only.forall_mem {x : Stage α} (hx : Only P x) {r : Except Halt α}
    (h : x.run.Yields answers.transcribed before r after)
    (hbefore : ∀ turn ∈ before.2, P turn.1) : ∀ turn ∈ after.2, P turn.1 := by
  obtain ⟨added, hadded, hkind⟩ := hx.transcript h
  rw [hadded, List.forall_mem_append]
  exact ⟨hbefore, hkind⟩

theorem Stage.Only.written_output {x : Stage α} (hx : x.Only Request.Silent) {r : Except Halt α}
    (h : x.run.Yields answers.transcribed before r after) :
    written .output after.2 = written .output before.2 := by
  obtain ⟨added, hadded, hsilent⟩ := hx.transcript h
  rw [hadded, written_append, written_output_of_silent hsilent, List.append_nil]

/-- What is written is added to the transcript. -/
theorem Step.transcript_of_write {s : Stream} {text : String} {u : Unit}
    (h : (Step.write s text).Yields answers.transcribed before u after) :
    after.2 = before.2 ++ [⟨.write s text, ()⟩] :=
  (yields_request.1 h).2

theorem Stage.transcript_of_write {s : Stream} {text : String} {r : Except Halt Unit}
    (h : (Stage.step (Step.write s text)).run.Yields answers.transcribed before r after) :
    after.2 = before.2 ++ [⟨.write s text, ()⟩] := by
  obtain ⟨⟨⟩, -, hstep⟩ := Stage.of_step h
  exact Step.transcript_of_write hstep

/-- A record of a logger that leaves standard output alone is written to standard error. -/
theorem written_of_record {l : Log.Logger} (hlogger : l.errorOnly) {c : Log.Context}
    {d : Log.Draft} {u : Unit} (h : (Step.record l c d).Yields answers.transcribed before u after) :
    ∃ moment, written .output after.2 = written .output before.2 ∧
      written .error after.2 = written .error before.2 ++
        (l.write c moment d).toList.map fun record => record.2 ++ "\n" := by
  obtain ⟨added, hadded, hidle⟩ := (Step.only_record hlogger c d).transcript h
  obtain ⟨moment, w₁, hmoment, h⟩ := yields_bind.1 h
  have htime : w₁.2 = before.2 ++ [⟨.moment, moment⟩] := (yields_request.1 hmoment).2
  refine ⟨moment, ?_, ?_⟩
  · rw [hadded, written_append,
      written_output_of_silent fun turn hturn => (hidle turn hturn).silent, List.append_nil]
  · cases hwrite : l.write c moment d with
    | none =>
      rw [hwrite] at h
      obtain ⟨-, rfl⟩ := yields_done.1 h
      rw [htime, written_append]
      rfl
    | some record =>
      obtain ⟨s, line⟩ := record
      obtain rfl := Step.stream_of_write hlogger hwrite
      rw [hwrite] at h
      rw [Step.transcript_of_write h, htime, List.append_assoc, written_append]
      rfl

end LoopGauge.Session
