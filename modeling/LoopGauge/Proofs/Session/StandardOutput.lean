import LoopGauge.Proofs.Json.Layout
import LoopGauge.Proofs.Session.ExitCode
import LoopGauge.Proofs.Session.Silence

/-!
# Standard output of a session with `--json`

With `--json` everything that is said on the way goes to standard error, records of all levels
included. Standard output is written to once, when a run has been made, and what is written is its
document.

## Main definitions

* `Reported`: a run was made, and its document is all that was written to standard output.
* `Refused`: no run was made, and standard error says why.

## Main statements

* `Invocation.of_carryOut_json`: the application is ended before its run or reports it.
* `command_json`: standard output carries only the report.
-/

namespace LoopGauge.Session

open Dialogue Text

variable {W : Type} {answers : Answers W Request.Answer}
  {before after : W × Transcript Request.Answer}

/-- The application ends early for a fault of the configuration, or it crashes. -/
def Halt.Early : Halt → Prop
  | .fault f _ => f.kind = .configuration
  | .crash => True

theorem Halt.early_of_resolve {c : CommandLine} {env : Environment} {found : FileState}
    {stop : Stop} (h : (resolve c env found).settings = .error stop) (ink : Style.Ink) :
    (Halt.ofStop ink stop).Early := by
  rw [settings_resolve] at h
  split at h
  · cases h
    trivial
  · cases h
    rfl
  · cases hresolve : resolveIn c (EnvFile.load env found).1 with
    | ok s =>
      rw [hresolve] at h
      cases h
    | error f =>
      rw [hresolve] at h
      cases h
      exact kind_of_resolveIn_error hresolve

namespace Invocation

variable {i : Invocation}

/-- Settings that are resolved ask for a document if the command line does. -/
theorem early_or_json_of_prepare {W : Type} {answers : Answers W Request.Answer} {w w' : W}
    {r : Except Halt Prepared} (h : i.prepare.run.Yields answers w r w') :
    (∃ halt, r = .error halt ∧ halt.Early) ∨
      ∃ p : Prepared, r = .ok p ∧ p.settings.json = i.commandLine.json := by
  obtain ⟨found, w₁, -, h⟩ := (Stage.sure_step _).of_bind h
  obtain ⟨w₂, h⟩ := (Stage.sure_step _).of_ite h
  obtain ⟨s, hs, h⟩ | ⟨stop, hstop, rfl, -⟩ := Stage.of_ofExcept_bind h
  · obtain ⟨advice, -, h⟩ | ⟨problem, hproblem, rfl, -⟩ := Stage.of_ofExcept_bind h
    · obtain ⟨session, w₃, -, h⟩ := (Stage.sure_step _).of_bind h
      obtain ⟨rfl, -⟩ := yields_done.1 h
      obtain ⟨-, -, -, rfl⟩ := (resolveIn_eq_ok_iff _ _ s).1 (resolveIn_of_resolve hs).2
      exact .inr ⟨_, rfl, rfl⟩
    · exact .inl ⟨_, rfl, rfl⟩
  · exact .inl ⟨_, rfl, Halt.early_of_resolve hstop _⟩

/-- Only a file that cannot be read any more ends the second look at it. -/
theorem early_of_checkEnvFile {W : Type} {answers : Answers W Request.Answer} {w w' : W}
    {p : Prepared} {halt : Halt} (h : (i.checkEnvFile p).run.Yields answers w (.error halt) w') :
    halt.Early := by
  obtain ⟨found, w₁, -, h⟩ := (Stage.sure_step _).of_bind h
  obtain ⟨warnings, -, h⟩ | ⟨f, hf, hhalt, -⟩ := Stage.of_ofExcept_bind h
  · split at h
    · cases (yields_done.1 h).1
    · obtain ⟨a, ha⟩ := Stage.sure_forM (fun _ => p.sure_note _ _ _) _ _ _ _ h
      cases ha
  · cases hhalt
    exact EnvFile.kind_of_check_error hf

end Invocation

namespace Prepared

variable {p : Prepared}

theorem written_output_of_note (hjson : p.settings.json) {level : Log.Level} {line : Nat}
    {message : String} {r : Except Halt Unit}
    (h : (p.note level line message).run.Yields answers.transcribed before r after) :
    written .output after.2 = written .output before.2 :=
  (only_note hjson level line message).silent.written_output h

theorem only_run (hjson : p.settings.json) (plan : Plan) :
    Stage.Only Request.Silent (p.run plan) :=
  Stage.only_step (Step.only_conduct hjson _)

/-- The answer is a document. -/
theorem written_of_answer (hjson : p.settings.json) {plan : Plan} {b : BenchResult} {s : RunSummary}
    {r : Except Halt Unit}
    (h : (p.answer plan b s).run.Yields answers.transcribed before r after) :
    ∃ moment, written .output after.2 =
      written .output before.2 ++ [Report.documentText moment plan b s ++ "\n"] := by
  rw [answer, if_pos hjson] at h
  obtain ⟨moment, w₁, hmoment, h⟩ := (Stage.sure_step _).of_bind h
  have hquiet := (Stage.only_step (only_request Request.idle_moment.silent)).written_output hmoment
  refine ⟨moment, ?_⟩
  rw [Stage.transcript_of_write h, written_append, hquiet]
  rfl

end Prepared

/-- A run was made, and its document is all that was written to standard output. -/
inductive Reported (answers : Answers W Request.Answer) (b : BenchResult) (s : RunSummary)
    (log : Transcript Request.Answer) : Prop where
  | intro {p : Prepared} {moment : Time.Moment}
      {start finish : Log.Context × W × Transcript Request.Answer}
      (json : p.settings.json)
      (conducted : (Plan.ofSettings p.settings).Conducted (answers.transcribed.through
        (Step.answer (.ofSettings Engine.recorder p.settings))) start b s finish)
      (within : finish.2.2 <+: log)
      (advised : p.advice ≠ [] → p.advices ∈ written .error log)
      (output : written .output log =
        [Report.documentText moment (Plan.ofSettings p.settings) b s ++ "\n"])
      (document : Json.Grammar.IsValue
        (Report.documentText moment (Plan.ofSettings p.settings) b s).toList) :
      Reported answers b s log

theorem isValue_documentText (moment : Time.Moment) (plan : Plan) (b : BenchResult)
    (s : RunSummary) : Json.Grammar.IsValue (Report.documentText moment plan b s).toList := by
  rw [Report.documentText, Json.Value.prettyText, String.toList_ofList]
  exact Json.isValue_pretty 0 _

namespace Invocation

theorem of_benchmark_json {p : Prepared} (hjson : p.settings.json) {r : Except Halt Outcome}
    (h : (benchmark p).run.Yields answers.transcribed before r after)
    (hadvised : p.advice ≠ [] → p.advices ∈ written .error before.2)
    (houtput : written .output before.2 = []) :
    ∃ b s, r = .ok (.completed b s) ∧ Reported answers b s after.2 := by
  have hwhole := h.prefix_transcript
  obtain ⟨⟨⟩, w₁, hfirst, h⟩ := (p.sure_note _ _ _).of_bind h
  obtain ⟨⟨b, s⟩, w₂, hrun, h⟩ | ⟨halt, hrun, -⟩ := Stage.of_bind h
  · obtain ⟨⟨⟩, w₃, hthird, h⟩ := (p.sure_note _ _ _).of_bind h
    obtain ⟨⟨⟩, w₄, hanswer, h⟩ := (p.sure_answer _ b s).of_bind h
    obtain ⟨b', s', context, heq, hconducted⟩ := Prepared.of_run hrun
    obtain ⟨rfl, rfl⟩ := Prod.mk.inj (Except.ok.inj heq)
    obtain ⟨moment, hdocument⟩ := Prepared.written_of_answer hjson hanswer
    rw [Prepared.written_output_of_note hjson hthird, (p.only_run hjson _).written_output hrun,
      Prepared.written_output_of_note hjson hfirst, houtput, List.nil_append] at hdocument
    -- What comes after the document is at most one more record.
    have hend : r = .ok (.completed b s) ∧ written .output after.2 = written .output w₄.2 := by
      dsimp only at h
      split at h
      · obtain ⟨⟨⟩, w₅, hlast, h⟩ := (p.sure_note _ _ _).of_bind h
        obtain ⟨hr, rfl⟩ := yields_done.1 h
        exact ⟨hr, Prepared.written_output_of_note hjson hlast⟩
      · obtain ⟨hr, rfl⟩ := yields_done.1 h
        exact ⟨hr, rfl⟩
    have hwithin := hthird.prefix_transcript.trans
      (hanswer.prefix_transcript.trans h.prefix_transcript)
    refine ⟨b, s, hend.1, .intro hjson hconducted hwithin ?_ (hend.2.trans hdocument)
      (isValue_documentText _ _ _ _)⟩
    intro hadvice
    exact (hwhole.filterMap _).mem (hadvised hadvice)
  · obtain ⟨b, s, context, heq, -⟩ := Prepared.of_run hrun
    cases heq

/-- Advice is given before the benchmark, on standard error. -/
theorem of_advised_benchmark {p : Prepared} (hjson : p.settings.json) {r : Except Halt Outcome}
    (hidle : ∀ turn ∈ before.2, turn.1.Idle)
    (h : Dialogue.Yields answers.transcribed (ExceptT.run do
      if !p.advice.isEmpty then Stage.say p.advices
      benchmark p) before r after) :
    ∃ b s, r = .ok (.completed b s) ∧ Reported answers b s after.2 := by
  have houtput := written_output_of_silent fun turn hturn => (hidle turn hturn).silent
  dsimp only at h
  split at h
  · obtain ⟨⟨⟩, w₁, hsay, h⟩ := (Stage.sure_step _).of_bind h
    have hwritten := Stage.transcript_of_write hsay
    refine of_benchmark_json hjson h (fun _ => ?_) ?_
    · rw [hwritten, written_append]
      exact List.mem_append_right _ List.mem_cons_self
    · rw [hwritten, written_append, houtput]
      rfl
  next hnone =>
    refine of_benchmark_json hjson h (fun hadvice => ?_) houtput
    simp [hadvice] at hnone

/-- The application is ended early before its run, or it makes the run and reports it. -/
theorem of_carryOut_json {i : Invocation} (hjson : i.commandLine.json)
    (hinfo : ¬i.commandLine.isInfoRequest) {r : Except Halt Outcome} {w : W}
    (h : i.carryOut.run.Yields answers.transcribed (w, []) r after) :
    (∃ halt, r = .error halt ∧ halt.Early ∧ ∀ turn ∈ after.2, turn.1.Idle) ∨
      ∃ b s, r = .ok (.completed b s) ∧ Reported answers b s after.2 := by
  rw [CommandLine.isInfoRequest, Bool.or_eq_true, not_or] at hinfo
  rw [carryOut, if_neg hinfo.1, if_neg hinfo.2] at h
  have hnil : ∀ turn ∈ (w, ([] : Transcript Request.Answer)).2, turn.1.Idle :=
    List.forall_mem_nil _
  obtain ⟨p, w₁, hprepare, h⟩ | ⟨halt, hprepare, rfl⟩ := Stage.of_bind h
  · have hidle₁ := i.only_prepare.forall_mem hprepare hnil
    obtain ⟨halt, heq, -⟩ | ⟨p', heq, hp⟩ := early_or_json_of_prepare hprepare
    · cases heq
    obtain rfl := Except.ok.inj heq
    rw [← hp] at hjson
    dsimp only at h
    split at h
    · obtain ⟨⟨⟩, w₂, hsay, h⟩ := (Stage.sure_step _).of_bind h
      have hidle₂ := (only_say _).forall_mem hsay hidle₁
      obtain ⟨⟨⟩, w₃, hcheck, h⟩ | ⟨halt, hcheck, rfl⟩ := Stage.of_bind h
      · have hidle₃ := (i.only_checkEnvFile hjson).forall_mem hcheck hidle₂
        exact .inr (of_advised_benchmark hjson hidle₃ h)
      · have hidle₃ := (i.only_checkEnvFile hjson).forall_mem hcheck hidle₂
        exact .inl ⟨halt, rfl, early_of_checkEnvFile hcheck, hidle₃⟩
    · exact .inr (of_advised_benchmark hjson hidle₁ h)
  · have hidle₁ := i.only_prepare.forall_mem hprepare hnil
    obtain ⟨halt', heq, hearly⟩ | ⟨p, heq, -⟩ := early_or_json_of_prepare hprepare
    · obtain rfl := Except.error.inj heq
      exact .inl ⟨halt, rfl, hearly, hidle₁⟩
    · cases heq

end Invocation

/-- Some of the texts says why a session has ended with this code. -/
def Explained (code : Nat) (texts : List String) : Prop :=
  (code = 1 ∧ ∃ (f : Fault) (ink : Style.Ink) (useColours detailed : Bool),
    f.exitCode = 1 ∧ f.report ink useColours detailed ∈ texts) ∨
  (code = crashCode ∧ crashText ∈ texts)

theorem Explained.mono {code : Nat} {texts texts' : List String} (h : Explained code texts)
    (hsubset : texts ⊆ texts') : Explained code texts' := by
  obtain ⟨hcode, f, ink, useColours, detailed, hone, hreport⟩ | ⟨hcode, hcrash⟩ := h
  · exact .inl ⟨hcode, f, ink, useColours, detailed, hone, hsubset hreport⟩
  · exact .inr ⟨hcode, hsubset hcrash⟩

/-- No run was made, nothing was written to standard output, and standard error says why. -/
structure Refused (code : Nat) (log : Transcript Request.Answer) : Prop where
  unrun : ∀ turn ∈ log, ∀ question, turn.1 ≠ .host question
  output : written .output log = []
  explained : Explained code (written .error log)

/-- A session that ends with words on standard error alone has been refused. -/
theorem refused_of_idle {code : Nat} {log : Transcript Request.Answer}
    (hidle : ∀ turn ∈ log, turn.1.Idle) (texts : List String) (h : Explained code texts) :
    Refused code (log ++ texts.map fun text => ⟨.write .error text, ()⟩) := by
  have hall : ∀ turn ∈ log ++ texts.map fun text => ⟨.write .error text, ()⟩, turn.1.Idle := by
    rw [List.forall_mem_append]
    refine ⟨hidle, fun turn hturn => ?_⟩
    obtain ⟨text, -, rfl⟩ := List.mem_map.1 hturn
    exact Request.idle_error text
  refine ⟨fun turn hturn => (hall turn hturn).unrun,
    written_output_of_silent fun turn hturn => (hall turn hturn).silent, h.mono ?_⟩
  intro text htext
  rw [written_append]
  exact List.mem_append_right _
    (List.mem_filterMap.2 ⟨⟨.write .error text, ()⟩, List.mem_map_of_mem htext, rfl⟩)

/-- No reference text is asked for together with a document. -/
theorem not_isInfoRequest {c : CommandLine} (hjson : c.json) (h : c.conflict? = none) :
    ¬c.isInfoRequest := by
  intro hinfo
  rw [CommandLine.conflict?, hjson, hinfo, Bool.and_self] at h
  split at h
  · cases h
  · cases h

/-- What a command line with `--json` comes to. -/
theorem of_obey_json {c : CommandLine} (hjson : c.json) {env : Environment} {terminal : Bool}
    {w : W} {code : Nat} (h : (obey c env terminal).Yields answers.transcribed (w, []) code after) :
    (∃ b s, code = (Outcome.completed b s).exitCode ∧ Reported answers b s after.2) ∨
      Refused code after.2 := by
  rw [obey] at h
  cases hconflict : c.conflict? with
  | some conflict =>
    rw [hconflict] at h
    obtain ⟨⟨⟩, w₁, hreport, h⟩ := yields_bind.1 h
    obtain ⟨rfl, rfl⟩ := yields_done.1 h
    rw [Step.transcript_of_write hreport]
    exact .inr (refused_of_idle (List.forall_mem_nil _) [_]
      (.inl ⟨rfl, conflict.fault, _, _, _, rfl, List.mem_singleton_self _⟩))
  | none =>
    rw [hconflict] at h
    obtain ⟨r, w₁, hcarry, h⟩ := yields_bind.1 h
    obtain ⟨halt, rfl, hearly, hidle⟩ | ⟨b, s, rfl, hreported⟩ :=
      Invocation.of_carryOut_json hjson (not_isInfoRequest hjson hconflict) hcarry
    · cases halt with
      | crash =>
        obtain ⟨⟨⟩, w₂, hcrash, h⟩ := yields_bind.1 h
        obtain ⟨rfl, rfl⟩ := yields_done.1 h
        rw [Step.transcript_of_write hcrash]
        exact .inr (refused_of_idle hidle [_] (.inr ⟨rfl, List.mem_singleton_self _⟩))
      | fault f ink =>
        obtain ⟨⟨⟩, w₂, hreport, h⟩ := yields_bind.1 h
        obtain ⟨⟨⟩, w₃, hhelp, h⟩ := yields_bind.1 h
        obtain ⟨rfl, rfl⟩ := yields_done.1 h
        have hone : f.exitCode = 1 := by
          rw [Fault.exitCode, hearly]
          rfl
        rw [Step.transcript_of_write hhelp, Step.transcript_of_write hreport, List.append_assoc]
        exact .inr (refused_of_idle hidle [_, _]
          (.inl ⟨hone, f, _, _, _, hone, List.mem_cons_self⟩))
    · obtain ⟨rfl, rfl⟩ := yields_done.1 h
      exact .inl ⟨b, s, rfl, hreported⟩

/-- **With `--json`, standard output carries only the report.** A session either makes its run, and
all that it writes to standard output is the document of the run and a new line, or it makes no
run, writes nothing there and says why on standard error. Whatever a logger of such a session
records goes to standard error. -/
theorem command_json (answers : Answers W Request.Answer) {words : List RawText} {c : CommandLine}
    (hread : CommandLine.read words = .ok c) (hjson : c.json) (env : Environment)
    (terminal : Bool) :
    (∀ w code w' log,
      (command words env terminal).Yields answers.transcribed (w, []) code (w', log) →
      (∃ b s, code = (Outcome.completed b s).exitCode ∧ Reported answers b s log) ∨
        Refused code log) ∧
    ∀ (name : String) (s : Settings), s.json → ∀ (context : Log.Context) (draft : Log.Draft)
      (w w' : W) (log log' : Transcript Request.Answer),
      (Step.record (.ofSettings name s) context draft).Yields answers.transcribed (w, log) ()
        (w', log') →
      ∃ moment, written .output log' = written .output log ∧
        written .error log' = written .error log ++
          ((Log.Logger.ofSettings name s).write context moment draft).toList.map
            fun record => record.2 ++ "\n" := by
  refine ⟨fun w code w' log h => ?_, fun name s hs context draft w w' log log' h => ?_⟩
  · rw [command, hread] at h
    exact of_obey_json hjson h
  · have hlogger : (Log.Logger.ofSettings name s).errorOnly := hs
    exact written_of_record hlogger h

/-- On a machine without a network the document of a run without success is written. -/
theorem command_json_offline :
    ∃ w' b s log,
      (command [.text "--json"] {} false).Yields
          (Answers.transcribed (.of Machine.Offline.answerSession)) (offlineWithFile, []) 6
          (w', log) ∧
        Reported (.of Machine.Offline.answerSession) b s log := by
  have h := yields_of Machine.Offline.answerSession (command [.text "--json"] {} false)
    offlineWithFile
  have hcode : (((command [.text "--json"] {} false).run Machine.Offline.answerSession).run
      offlineWithFile).1 = 6 := by
    decide +kernel
  rw [hcode] at h
  obtain ⟨log, hlog⟩ := exists_yields_transcribed h []
  have hread : CommandLine.read [.text "--json"] = .ok { json := true } := by
    decide +kernel
  obtain ⟨hcommand, -⟩ := command_json (.of Machine.Offline.answerSession) hread rfl {} false
  obtain ⟨b, s, -, hreported⟩ | hrefused := hcommand _ _ _ _ hlog
  · exact ⟨_, b, s, log, hlog, hreported⟩
  · obtain ⟨hone, -⟩ | ⟨hcrash, -⟩ := hrefused.explained
    · cases hone
    · cases hcrash

end LoopGauge.Session
