import LoopGauge.CommandLine.Basic
import LoopGauge.EnvFile.Load

/-!
# Resolving settings

The settings of an invocation come from four places. The command line wins over the environment,
the environment over the env file, and the env file over the defaults.

## Main definitions

* `Settings.override`: settings with what the command line says.
* `Resolution`: settings or a fault, the environment afterwards, and what is said on the way.
* `resolve`: resolves the settings of an invocation.
-/

namespace LoopGauge

/-- Why there are no settings. -/
inductive Stop where
  | fault (f : Fault)
  /-- A variable was to be given a value that it cannot hold. -/
  | crash
deriving DecidableEq, Repr

/-- What resolving settings leads to. -/
structure Resolution where
  settings : Except Stop Settings
  env : Environment
  /-- What is written to standard error. -/
  note : String := ""

namespace Settings

/-- The members of a list in the order of their first mention. -/
def distinct (tests : List SubTest) : List SubTest :=
  tests.foldl (fun seen t => if seen.contains t then seen else seen ++ [t]) []

/-- Settings with what the command line says; three of them only the command line can say. -/
def override (s : Settings) (c : CommandLine) : Settings where
  budgetMs := c.budgetMs.getD s.budgetMs
  messageSize := c.messageSize.getD s.messageSize
  bufferSize := c.bufferSize.getD s.bufferSize
  maxSamples := c.maxSamples.getD s.maxSamples
  tests := if c.tests.isEmpty then s.tests else distinct c.tests
  enableColour := if c.noColour || c.json then false else c.colour || s.enableColour
  json := c.json
  verbose := c.verbose
  debug := c.debug

end Settings

/-- The settings in an environment into which the env file has been loaded. -/
def resolveIn (c : CommandLine) (env : Environment) : Except Fault Settings :=
  match Settings.merge env {} with
  | (_, some f) => .error f
  | (s, none) =>
    let s := s.override c
    match s.problem? with
    | some p => .error p.fault
    | none => .ok s

/-- The settings of an invocation, given what is found under the path of the env file. -/
def resolve (c : CommandLine) (env : Environment) (file : FileState) : Resolution :=
  let (env, failure) := EnvFile.load env file
  let note := if c.debug then EnvFile.loadNote c.envPath file failure.isSome else ""
  match failure with
  | some .unstorable => ⟨.error .crash, env, note⟩
  | some f => ⟨.error (.fault (EnvFile.loadFault c.envPath f)), env, note⟩
  | none => ⟨(resolveIn c env).mapError .fault, env, note⟩

end LoopGauge
