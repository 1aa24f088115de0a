import LoopGauge.CommandLine.Usage
import LoopGauge.Session.Application
import LoopGauge.Style.Terminal

/-!
# The command

From the words of a command line to an exit code. A line that is not accepted ends the program at
once; options that exclude each other are a fault; every other fault that ends the application is
reported with suggestions.

## Main definitions

* `suggestions`: what may help against a fault.
* `obey`: carries out a command line that was accepted.
* `command`: the whole program.
-/

namespace LoopGauge.Session

/-- What may help against a kind of fault. -/
def suggestions : FaultKind → List String
  | .configuration | .validation | .parse => [
      "",
      "Configuration help:",
      "  - Check your .env file format (see --env-example)",
      "  - LOOPBACK_BUDGET_MS must be between 1 and 600000",
      "  - LOOPBACK_TESTS takes a comma-separated list of sub-test names"]
  | .socket => [
      "",
      "Socket troubleshooting:",
      "  - Check that the loopback interface is up",
      "  - Check the open file descriptor limit (ulimit -n)"]
  | _ => []

/-- The exit code of a program that crashes. -/
def crashCode : Nat := 99

/-- What is written when the program crashes. -/
def crashText : String :=
  "Application panic: an environment variable cannot hold a value with a NUL character\n"

/-- Writes a fault that ends the program. -/
def reportFault (c : CommandLine) (useColours : Bool) (ink : Style.Ink) (f : Fault) : Step Unit :=
  Step.write .error (f.report ink useColours (c.verbose || c.debug))

/-- Carries out a command line that was accepted; the exit code. -/
def obey (c : CommandLine) (env : Environment) (terminal : Bool) : Step Nat := do
  let ink (env : Environment) : Style.Ink := Style.Ink.ofEnvironment env terminal
  let useColours := c.useColours env
  match c.conflict? with
  | some conflict =>
    reportFault c useColours (ink env) conflict.fault
    return conflict.fault.exitCode
  | none =>
    match ← (Invocation.carryOut ⟨c, env, ink⟩).run with
    | .ok outcome => return outcome.exitCode
    | .error .crash =>
      Step.write .error crashText
      return crashCode
    | .error (.fault f ink) =>
      reportFault c useColours ink f
      Step.write .error (Text.joinLines (suggestions f.kind))
      return f.exitCode

/-- The whole program: the words after its name, its environment, and whether standard output is
a terminal. The answer is the exit code. -/
def command (words : List Text.RawText) (env : Environment) (terminal : Bool) : Step Nat := do
  match CommandLine.read words with
  | .ok c => obey c env terminal
  | .error r =>
    match r with
    | .helpWanted => Step.write .output CommandLine.helpText
    | .versionWanted => Step.write .output Package.versionLine
    | _ => Step.write .error r.errorText
    return r.exitCode

end LoopGauge.Session
