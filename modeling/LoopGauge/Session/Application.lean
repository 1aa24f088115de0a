import LoopGauge.CommandLine.Basic
import LoopGauge.Engine.Run
import LoopGauge.EnvFile.Check
import LoopGauge.EnvFile.Example
import LoopGauge.Package
import LoopGauge.Report.Document
import LoopGauge.Report.Formatter
import LoopGauge.Session.Request
import LoopGauge.Settings.Advice
import LoopGauge.Settings.Resolve

/-!
# The application

What the program does with a command line that is free of conflicts: it writes a reference text,
or resolves its settings, makes the run they ask for and writes the report. The report goes to
standard output, and with `--json` nothing else does.

## Main definitions

* `Step.conduct`: the run of an orchestrator, with its log records.
* `Invocation`: a command line with its environment.
* `Invocation.prepare`: the settings, with all that is said about them.
* `Invocation.carryOut`: the whole application.
-/

namespace LoopGauge.Session

open Number Style Text

/-- A command line and the environment in which it is to be obeyed. -/
structure Invocation where
  commandLine : CommandLine
  env : Environment
  /-- The ink for an environment. -/
  ink : Environment → Ink

/-- Why the application ends early. -/
inductive Halt where
  /-- A fault, and the ink for a report of it. -/
  | fault (f : Fault) (ink : Ink)
  | crash

/-- The end of an application that has no settings. -/
def Halt.ofStop (ink : Ink) : Stop → Halt
  | .fault f => fault f ink
  | .crash => crash

/-- What the application does unless it ends early. -/
abbrev Stage (α : Type) : Type := ExceptT Halt Step α

namespace Stage

/-- A step that cannot fail. -/
def step {α : Type} (s : Step α) : Stage α := ExceptT.lift s

/-- Writes to standard error. -/
def say (text : String) : Stage Unit := step (Step.write .error text)

/-- Writes a line to standard output. -/
def answerLine (text : String) : Stage Unit := step (Step.write .output (text ++ "\n"))

/-- Goes on with a success; any failure ends the application. -/
def ofExcept {ε α : Type} (halt : ε → Halt) (r : Except ε α) : Stage α :=
  ExceptT.mk (pure (r.mapError halt))

end Stage

/-- The run of an orchestrator. It takes note of its own steps, and each probe of those of its
measurement, with the logger that it has; all of them share one context. -/
def Step.conduct (o : Engine.Orchestrator) (c : Log.Context) : Step (BenchResult × RunSummary) :=
  let run : StateT Log.Context Step (BenchResult × RunSummary) :=
    o.plan.conduct (fun r => r.run (Step.answer o.logger)) fun t slice =>
      let probe := o.probeFor t
      (probe.measure slice).run (Step.answer probe.logger)
  Prod.fst <$> run.run c

/-- Since the loggers of the probes are copies of that of the orchestrator, one logger takes note of
all steps of the run. -/
theorem Step.conduct_eq (o : Engine.Orchestrator) (c : Log.Context) :
    Step.conduct o c = Prod.fst <$> (o.plan.run.run (Step.answer o.logger)).run c := by
  have hprobes : (fun t slice => ((o.probeFor t).measure slice).run
      (Step.answer (o.probeFor t).logger)) =
      fun t slice => ((Engine.Probe.ofPlan o.plan t).measure slice).run (Step.answer o.logger) := by
    funext t slice
    rw [Engine.Orchestrator.probeFor, Engine.Probe.logger_withLogger,
      Engine.Probe.measure_withLogger]
  rw [Step.conduct, hprobes, Plan.conduct_run]
  rfl

/-- The name of the logger of the application. -/
def recorder : String := "APP"

/-- A place of the application, as its records name it. -/
def place (line : Nat) : Log.Location where
  file := "src/app.rs"
  line := line
  module := some "loopback_bench::app"

/-- What is known when the settings are resolved. -/
structure Prepared where
  settings : Settings
  advice : List Advice
  ink : Ink
  session : String

namespace Prepared

/-- The context of all log records. -/
def context (p : Prepared) : Log.Context := Log.Context.withSession {} p.session

/-- Writes a log record of the application, with the line from which it comes. -/
def note (p : Prepared) (level : Log.Level) (line : Nat) (message : String) : Stage Unit :=
  let draft : Log.Draft := { level := level, message := message }
  Stage.step (Step.record (.ofSettings recorder p.settings) p.context
    (draft.withLocation (place line)))

/-- Makes the run of a plan. -/
def run (p : Prepared) (plan : Plan) : Stage (BenchResult × RunSummary) :=
  let o : Engine.Orchestrator := { plan := plan }
  let logger := Log.Logger.ofSettings Engine.recorder p.settings
  Stage.step (Step.conduct (o.withLogger logger) p.context)

/-- The lines at the start of a session with details. -/
def details (p : Prepared) : String :=
  Package.buildLine ++ "\nSession: " ++ p.session ++ "\n\nConfiguration Summary:\n" ++
    p.settings.summary ++ "\n\n"

/-- The lines about questionable settings. -/
def advices (p : Prepared) : String :=
  joinLines (["Configuration Warnings:"] ++
    p.advice.map (fun a => "  " ++ a.shown p.ink p.settings.enableColour) ++ [""])

/-- The report of a run. -/
def answer (p : Prepared) (plan : Plan) (b : BenchResult) (s : RunSummary) : Stage Unit := do
  if p.settings.json then
    let moment ← Stage.step Step.moment
    Stage.answerLine (Report.documentText moment plan b s)
  else
    let f := Report.Formatter.choose p.ink p.settings.enableColour p.settings.verbose
    Stage.answerLine (f.results b s)
    if p.settings.verbose then Stage.answerLine ("\n" ++ f.quickSummary b s)

end Prepared

namespace Invocation

/-- Resolves the settings and looks them over. -/
def prepare (i : Invocation) : Stage Prepared := do
  let path := i.commandLine.envPath
  let r := resolve i.commandLine i.env (← Stage.step (Step.lookUp path))
  if r.note ≠ "" then Stage.say r.note
  let ink := i.ink r.env
  let settings ← Stage.ofExcept (Halt.ofStop ink) r.settings
  let advice ← Stage.ofExcept (fun p => .fault p.fault ink) settings.review
  let session ← Stage.step Step.freshId
  return ⟨settings, advice, ink, session⟩

/-- Checks the env file once more, line by line. -/
def checkEnvFile (i : Invocation) (p : Prepared) : Stage Unit := do
  let path := i.commandLine.envPath
  let found ← Stage.step (Step.lookUp path)
  match ← Stage.ofExcept (.fault · p.ink) (EnvFile.check path found) with
  | none => pure ()
  | some warnings => warnings.forM fun w => p.note .warn 90 (path.display ++ ": " ++ w)

/-- Makes the run and reports it. -/
def benchmark (p : Prepared) : Stage Outcome := do
  let plan := Plan.ofSettings p.settings
  p.note .info 104 ("Starting loopback benchmark: " ++ decimal plan.enabled.length ++
    " sub-tests within " ++ decimal p.settings.budgetMs.toNat ++ "ms")
  let (result, summary) ← p.run plan
  p.note .debug 115 ("Benchmark finished in " ++ summary.total.asMillis.fixed 1 ++ "ms, " ++
    decimal summary.successful.toNat ++ "/" ++ decimal summary.enabled.length ++
    " sub-tests succeeded")
  p.answer plan result summary
  let outcome := Outcome.completed result summary
  match outcome.failure? with
  | some f => p.note .error 136 f.display
  | none => pure ()
  return outcome

/-- The whole application. -/
def carryOut (i : Invocation) : Stage Outcome := do
  if i.commandLine.envExample then
    Stage.step (Step.write .output EnvFile.exampleContent)
    return .info
  else if i.commandLine.envHelp then
    Stage.step (Step.write .output EnvFile.help)
    return .info
  else
    let p ← i.prepare
    if p.settings.debug then
      Stage.say p.details
      i.checkEnvFile p
    if !p.advice.isEmpty then Stage.say p.advices
    benchmark p

end Invocation

end LoopGauge.Session
