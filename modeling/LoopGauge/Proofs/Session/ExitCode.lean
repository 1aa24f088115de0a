import LoopGauge.Machine.Offline
import LoopGauge.Proofs.Run.Account
import LoopGauge.Proofs.Session.Stages
import LoopGauge.Proofs.Settings.Refusal
import LoopGauge.Session.Command

/-!
# The exit code

Five things decide the exit code: whether the command line is accepted, whether its options agree,
whether only a text is asked for, whether there are settings, and whether a sub-test succeeded.
After the settings are resolved nothing can end the session early, not even the second look at the
env file, so no other exit code can be reached.

## Main definitions

* `Unchanging`: the env files stay as they are while the session runs.

## Main statements

* `Invocation.of_carryOut`: what the application comes to.
* `command_exitCode`: the exit code of the program.
-/

namespace LoopGauge.Session

open Dialogue Text

variable {W : Type} {answers : Answers W Request.Answer} {files : W → RawText → FileState}
  {w w' : W} {α : Type}

/-- The files of a world stay as they are, and a look at them shows them. -/
structure Unchanging (answers : Answers W Request.Answer) (files : W → RawText → FileState) :
    Prop where
  kept : ∀ w q answer w', answers w q answer w' → files w' = files w
  seen : ∀ w path found w', answers w (.lookUp path) found w' → found = files w path

namespace Unchanging

theorem files_eq (hfiles : Unchanging answers files) {d : Step α} {a : α}
    (h : d.Yields answers w a w') : files w' = files w := by
  induction h with
  | done a w => rfl
  | ask answered rest ih => rw [ih, hfiles.kept _ _ _ _ answered]

theorem of_lookUp_bind {β : Type} (hfiles : Unchanging answers files) {path : RawText}
    {f : FileState → Stage β} {r : Except Halt β}
    (h : (Stage.step (Step.lookUp path) >>= f).run.Yields answers w r w') :
    ∃ w₁, files w₁ = files w ∧ (f (files w path)).run.Yields answers w₁ r w' := by
  obtain ⟨found, w₁, hlook, h⟩ := (Stage.sure_step _).of_bind h
  obtain ⟨a, ha, hstep⟩ := Stage.of_step hlook
  obtain rfl := Except.ok.inj ha
  have hanswered := yields_request.1 hstep
  rw [hfiles.seen _ _ _ _ hanswered] at h
  exact ⟨w₁, hfiles.kept _ _ _ _ hanswered, h⟩

end Unchanging

namespace Invocation

variable {i : Invocation}

/-- What comes of resolving the settings. -/
theorem of_prepare (hfiles : Unchanging answers files) {r : Except Halt Prepared}
    (h : i.prepare.run.Yields answers w r w') :
    match (resolve i.commandLine i.env (files w i.commandLine.envPath)).settings with
    | .error stop => ∃ ink, r = .error (Halt.ofStop ink stop)
    | .ok s => ∃ p : Prepared, r = .ok p ∧ p.settings = s := by
  obtain ⟨w₁, -, h⟩ := hfiles.of_lookUp_bind h
  obtain ⟨w₂, h⟩ := (Stage.sure_step _).of_ite h
  dsimp only at h
  obtain ⟨s, hs, h⟩ | ⟨stop, hstop, hr, -⟩ := Stage.of_ofExcept_bind h
  · rw [hs]
    rw [review_of_resolve hs] at h
    obtain ⟨advice, -, h⟩ | ⟨problem, hproblem, -⟩ := Stage.of_ofExcept_bind h
    · obtain ⟨session, w₃, -, h⟩ := (Stage.sure_step _).of_bind h
      exact ⟨_, (yields_done.1 h).1, rfl⟩
    · cases hproblem
  · rw [hstop]
    exact ⟨_, hr⟩

/-- The second look at an env file that has been loaded ends nothing. -/
theorem sure_checkEnvFile (hfiles : Unchanging answers files) {p : Prepared}
    (hcheck : ∃ warnings, EnvFile.check i.commandLine.envPath (files w i.commandLine.envPath) =
      .ok warnings) {r : Except Halt Unit}
    (h : (i.checkEnvFile p).run.Yields answers w r w') : ∃ a, r = .ok a := by
  obtain ⟨w₁, -, h⟩ := hfiles.of_lookUp_bind h
  obtain ⟨warnings, hwarnings⟩ := hcheck
  rw [hwarnings] at h
  obtain ⟨found, hfound, h⟩ | ⟨f, hf, -⟩ := Stage.of_ofExcept_bind h
  · split at h
    · exact ⟨_, (yields_done.1 h).1⟩
    · exact Stage.sure_forM (fun _ => p.sure_note _ _ _) _ _ _ _ h
  · cases hf

/-- Whatever is said before it, the benchmark is reached. -/
theorem exists_benchmark (hfiles : Unchanging answers files) {p : Prepared}
    (hcheck : ∃ warnings, EnvFile.check i.commandLine.envPath (files w i.commandLine.envPath) =
      .ok warnings) {r : Except Halt Outcome}
    (h : Dialogue.Yields answers (ExceptT.run do
      if p.settings.debug then
        Stage.say p.details
        i.checkEnvFile p
      if !p.advice.isEmpty then Stage.say p.advices
      benchmark p) w r w') :
    ∃ w₁, (benchmark p).run.Yields answers w₁ r w' := by
  dsimp only at h
  by_cases hdebug : p.settings.debug
  · rw [if_pos hdebug] at h
    obtain ⟨⟨⟩, w₁, hsay, h⟩ := (Stage.sure_step _).of_bind h
    rw [← hfiles.files_eq hsay] at hcheck
    obtain ⟨⟨⟩, w₂, -, h⟩ | ⟨halt, hchecked, -⟩ := Stage.of_bind h
    · exact (Stage.sure_step _).of_ite h
    · obtain ⟨a, ha⟩ := sure_checkEnvFile hfiles hcheck hchecked
      cases ha
  · rw [if_neg hdebug] at h
    exact (Stage.sure_step _).of_ite h

/-- What the application comes to. -/
theorem of_carryOut (hfiles : Unchanging answers files)
    (hproper : (files w i.commandLine.envPath).Proper) {r : Except Halt Outcome}
    (h : i.carryOut.run.Yields answers w r w') :
    if i.commandLine.isInfoRequest then r = .ok .info
    else
      match (resolve i.commandLine i.env (files w i.commandLine.envPath)).settings with
      | .error stop => ∃ ink, r = .error (Halt.ofStop ink stop)
      | .ok s => ∃ b summary, r = .ok (.completed b summary) ∧ ∃ before after,
          (Plan.ofSettings s).Conducted
            (answers.through (Step.answer (.ofSettings Engine.recorder s))) before b summary
            after := by
  rw [carryOut] at h
  -- A reference text is written before anything is looked at.
  by_cases hexample : i.commandLine.envExample
  · rw [if_pos hexample] at h
    obtain ⟨⟨⟩, w₁, -, h⟩ := (Stage.sure_step _).of_bind h
    rw [if_pos (by simp [CommandLine.isInfoRequest, hexample])]
    exact (yields_done.1 h).1
  rw [if_neg hexample] at h
  by_cases hhelp : i.commandLine.envHelp
  · rw [if_pos hhelp] at h
    obtain ⟨⟨⟩, w₁, -, h⟩ := (Stage.sure_step _).of_bind h
    rw [if_pos (by simp [CommandLine.isInfoRequest, hhelp])]
    exact (yields_done.1 h).1
  rw [if_neg hhelp] at h
  rw [if_neg (by simp [CommandLine.isInfoRequest, hexample, hhelp])]
  obtain ⟨p, w₁, hprepare, h⟩ | ⟨halt, hprepare, rfl⟩ := Stage.of_bind h
  · have hsettings := of_prepare hfiles hprepare
    have hkept := hfiles.files_eq hprepare
    cases hresolve : (resolve i.commandLine i.env (files w i.commandLine.envPath)).settings with
    | error stop =>
      rw [hresolve] at hsettings
      obtain ⟨ink, heq⟩ := hsettings
      cases heq
    | ok s =>
      rw [hresolve] at hsettings
      obtain ⟨p', heq, rfl⟩ := hsettings
      obtain rfl := Except.ok.inj heq
      have hcheck := EnvFile.exists_check_eq_ok hproper (resolveIn_of_resolve hresolve).1
        i.commandLine.envPath
      rw [← hkept] at hcheck
      obtain ⟨w₂, hbenchmark⟩ := exists_benchmark hfiles hcheck h
      exact of_benchmark hbenchmark
  · have hsettings := of_prepare hfiles hprepare
    cases hresolve : (resolve i.commandLine i.env (files w i.commandLine.envPath)).settings with
    | error stop =>
      rw [hresolve] at hsettings
      obtain ⟨ink, heq⟩ := hsettings
      exact ⟨ink, congrArg _ (Except.error.inj heq)⟩
    | ok s =>
      rw [hresolve] at hsettings
      obtain ⟨p', heq, -⟩ := hsettings
      cases heq

end Invocation

/-- A run has the exit code zero if a sub-test succeeded, and six otherwise. -/
theorem exitCode_completed {p : Plan} {b : BenchResult} {s : RunSummary} (h : p.Accounts b s) :
    (Outcome.completed b s).exitCode =
      if p.enabled.any fun t => (b.get t).success then 0 else 6 := by
  have hany : b.anySuccess = p.enabled.any fun t => (b.get t).success := by
    rw [Bool.eq_iff_iff, h.anySuccess_iff, h.successful, List.countP_pos_iff, List.any_eq_true,
      h.enabled]
    rfl
  rw [Outcome.exitCode, Outcome.failure?, ← hany]
  by_cases hsuccess : b.anySuccess
  · rw [if_pos hsuccess, if_pos hsuccess]
    rfl
  · rw [if_neg hsuccess, if_neg hsuccess]
    rfl

/-- The exit code of a command line that was accepted. -/
theorem of_obey (hfiles : Unchanging answers files) {c : CommandLine} {env : Environment}
    (henv : env.NulFree) (hproper : (files w c.envPath).Proper) {terminal : Bool} {code : Nat}
    (h : (obey c env terminal).Yields answers w code w') :
    if c.conflict?.isSome then code = 1
    else if c.isInfoRequest then code = 0
    else
      match (resolve c env (files w c.envPath)).settings with
      | .error _ => code = 1
      | .ok s => ∃ b summary before after,
          (Plan.ofSettings s).Conducted
            (answers.through (Step.answer (.ofSettings Engine.recorder s))) before b summary
            after ∧
          code = if (Plan.ofSettings s).enabled.any fun t => (b.get t).success then 0 else 6 := by
  rw [obey] at h
  cases hconflict : c.conflict? with
  | some conflict =>
    rw [hconflict] at h
    obtain ⟨⟨⟩, w₁, -, h⟩ := yields_bind.1 h
    exact (yields_done.1 h).1
  | none =>
    rw [hconflict] at h
    obtain ⟨r, w₁, hcarry, h⟩ := yields_bind.1 h
    have hcarried := Invocation.of_carryOut hfiles hproper hcarry
    rw [if_neg (by simp)]
    dsimp only at hcarried
    by_cases hinfo : c.isInfoRequest
    · rw [if_pos hinfo] at hcarried ⊢
      subst hcarried
      exact (yields_done.1 h).1
    · rw [if_neg hinfo] at hcarried ⊢
      cases hresolve : (resolve c env (files w c.envPath)).settings with
      | error stop =>
        rw [hresolve] at hcarried
        obtain ⟨ink, rfl⟩ := hcarried
        obtain ⟨f, rfl, hkind⟩ := kind_of_resolve_error henv hproper hresolve
        obtain ⟨⟨⟩, w₂, -, h⟩ := yields_bind.1 h
        obtain ⟨⟨⟩, w₃, -, h⟩ := yields_bind.1 h
        rw [(yields_done.1 h).1, Fault.exitCode, hkind]
        rfl
      | ok s =>
        rw [hresolve] at hcarried
        obtain ⟨b, summary, rfl, before, after, hconducted⟩ := hcarried
        refine ⟨b, summary, before, after, hconducted, ?_⟩
        rw [(yields_done.1 h).1, exitCode_completed hconducted.accounts]

/-- **The exit code**: two for a command line that is not accepted, zero if help or the version is
wanted, one if options conflict or there are no settings, zero for a reference text, and after a
run zero or six, as a sub-test succeeded or none did. Nothing that is done with settings fails. -/
theorem command_exitCode (hfiles : Unchanging answers files) {words : List RawText}
    {env : Environment} (henv : env.NulFree)
    (hproper : ∀ c, CommandLine.read words = .ok c → (files w c.envPath).Proper)
    (terminal : Bool) :
    ((∀ w q, ∃ answer w', answers w q answer w') →
      ∃ code w', (command words env terminal).Yields answers w code w') ∧
    (∀ c s, CommandLine.read words = .ok c →
      (resolve c env (files w c.envPath)).settings = .ok s →
      s.review = .ok s.advice ∧
        ∃ warnings, EnvFile.check c.envPath (files w c.envPath) = .ok warnings) ∧
    ∀ code w', (command words env terminal).Yields answers w code w' →
      match CommandLine.read words with
      | .error r => code = if r = .helpWanted ∨ r = .versionWanted then 0 else 2
      | .ok c =>
        if c.conflict?.isSome then code = 1
        else if c.isInfoRequest then code = 0
        else
          match (resolve c env (files w c.envPath)).settings with
          | .error _ => code = 1
          | .ok s => ∃ b summary before after,
              (Plan.ofSettings s).Conducted
                (answers.through (Step.answer (.ofSettings Engine.recorder s))) before b summary
                after ∧
              code = if (Plan.ofSettings s).enabled.any fun t => (b.get t).success then 0
                else 6 := by
  refine ⟨fun hanswers => exists_yields hanswers _ w, ?_, ?_⟩
  · intro c s hread hresolve
    exact ⟨review_of_resolve hresolve, EnvFile.exists_check_eq_ok (hproper c hread)
      (resolveIn_of_resolve hresolve).1 c.envPath⟩
  · intro code w' h
    rw [command] at h
    cases hread : CommandLine.read words with
    | error r =>
      rw [hread] at h
      cases r <;>
        (obtain ⟨⟨⟩, w₁, -, h⟩ := yields_bind.1 h
         exact (yields_done.1 h).1)
    | ok c =>
      rw [hread] at h
      exact of_obey hfiles henv (hproper c hread) h

/-- The files of a machine without a network stay as they are. -/
theorem unchanging_offline :
    Unchanging (.of Machine.Offline.answerSession) Machine.Offline.lookUp where
  kept w q answer w' h := by
    have hkept : ((Machine.Offline.answerSession q).run w).2.lookUp = w.lookUp := by
      cases q with
      | write s text => cases s <;> rfl
      | moment => rfl
      | freshId => rfl
      | lookUp path => rfl
      | host question =>
        cases question with
        | wire q => cases q <;> rfl
        | bindServer t port sink =>
          simp only [Machine.Offline.answerSession, Machine.Offline.answerHost, StateT.run]
          split <;> rfl
        | _ => rfl
    rw [Answers.of] at h
    rw [h] at hkept
    exact hkept
  seen w path found w' h := (congrArg Prod.fst h).symm

/-- A machine without a network, whose env file asks for one sub-test. -/
def offlineWithFile : Machine.Offline :=
  { lookUp := fun _ => .file (.text "LOOPBACK_TESTS=tcp-latency\n") }

/-- A session on such a machine ends with a run that has no success. -/
theorem command_exitCode_offline :
    ∃ w' b summary before after,
      (command [] {} false).Yields (.of Machine.Offline.answerSession) offlineWithFile 6 w' ∧
        (Plan.ofSettings { tests := [.tcpLatency] }).Conducted
          (Answers.through (.of Machine.Offline.answerSession)
            (Step.answer (.ofSettings Engine.recorder { tests := [.tcpLatency] }))) before b summary
          after ∧
        ¬(b.get .tcpLatency).success := by
  have h := yields_of Machine.Offline.answerSession (command [] {} false) offlineWithFile
  have hcode : (((command [] {} false).run Machine.Offline.answerSession).run
      offlineWithFile).1 = 6 := by
    decide +kernel
  rw [hcode] at h
  have hread : CommandLine.read [] = .ok {} := rfl
  have hresolve : (resolve {} {} (offlineWithFile.lookUp ({} : CommandLine).envPath)).settings =
      .ok { tests := [.tcpLatency] } := by
    rfl
  have henv : ({} : Environment).NulFree := fun entry hentry => nomatch hentry
  have hproper : ∀ c, CommandLine.read [] = .ok c →
      (offlineWithFile.lookUp c.envPath).Proper := fun c _ => ⟨trivial, by simp [RawText.NulFree]⟩
  obtain ⟨-, -, hexit⟩ := command_exitCode unchanging_offline henv hproper false
  have hdecided := hexit 6 _ h
  rw [hread] at hdecided
  dsimp only at hdecided
  rw [if_neg (by decide), if_neg (by decide), hresolve] at hdecided
  obtain ⟨b, summary, before, after, hconducted, hsix⟩ := hdecided
  refine ⟨_, b, summary, before, after, h, hconducted, fun hsuccess => ?_⟩
  have henabled : (Plan.ofSettings { tests := [.tcpLatency] }).enabled = [.tcpLatency] := rfl
  rw [henabled, List.any_cons, hsuccess] at hsix
  cases hsix

end LoopGauge.Session
