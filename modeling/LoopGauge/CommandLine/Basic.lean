import LoopGauge.Environment
import LoopGauge.Number.Numeral
import LoopGauge.Settings.Basic

/-!
# Command lines

What a user can say on the command line, the conflicts that are refused, and whether the answer is
coloured.

## Main definitions

* `CommandLine`: the options that were given.
* `CommandLine.conflict?`: options that exclude each other.
* `CommandLine.useColours`: whether colours are wanted.
* `CommandLine.summary`: the options as lines of text.
-/

namespace LoopGauge

open Number Text

/-- The options that were given. -/
structure CommandLine where
  budgetMs : Option UInt64 := none
  messageSize : Option UInt64 := none
  bufferSize : Option UInt64 := none
  maxSamples : Option UInt64 := none
  tests : List SubTest := []
  json : Bool := false
  colour : Bool := false
  noColour : Bool := false
  verbose : Bool := false
  debug : Bool := false
  envFile : Option RawText := none
  envExample : Bool := false
  envHelp : Bool := false
deriving DecidableEq, Repr, Inhabited

namespace CommandLine

/-- Whether only a reference text is asked for. -/
def isInfoRequest (c : CommandLine) : Bool := c.envExample || c.envHelp

/-- Options that exclude each other. -/
inductive Conflict where
  | colours
  | jsonWithInfo
deriving DecidableEq, Repr

def Conflict.message : Conflict → String
  | colours => "Cannot specify both --color and --no-color"
  | jsonWithInfo => "--json cannot be combined with --env-example or --env-help"

def Conflict.fault (c : Conflict) : Fault := ⟨.validation, c.message⟩

/-- The first conflict, if there is one. -/
def conflict? (c : CommandLine) : Option Conflict :=
  if c.colour && c.noColour then some .colours
  else if c.json && c.isInfoRequest then some .jsonWithInfo
  else none

/-- Whether the terminal is thought to show colours. -/
def terminalColours (env : Environment) : Bool :=
  env.read? "TERM" ≠ some "dumb" && (env.read? "NO_COLOR").isNone

/-- Whether faults are reported in colour. -/
def useColours (c : CommandLine) (env : Environment) : Bool :=
  if c.colour then true
  else if c.noColour || c.json then false
  else terminalColours env

/-- The path of the env file. -/
def envPath (c : CommandLine) : RawText := c.envFile.getD (.text ".env")

/-- A line for an option that was given. -/
def given (label : String) (value : Option UInt64) (unit : String) : List String :=
  value.toList.map fun n => "  " ++ label ++ ": " ++ decimal n.toNat ++ unit

/-- The options, one a line. -/
def summary (c : CommandLine) (env : Environment) : String :=
  String.join (([
      ["Configuration Summary:"],
      if c.budgetMs.isSome then given "Budget" c.budgetMs "ms" else ["  Budget: default"],
      given "Message size" c.messageSize " bytes",
      given "Buffer size" c.bufferSize " bytes",
      given "Max samples" c.maxSamples "",
      if c.tests.isEmpty then [] else ["  Sub-tests: " ++ SubTest.listing c.tests],
      ["  Colored output: " ++ ofFlag (c.useColours env),
        "  JSON output: " ++ ofFlag c.json,
        "  Verbose mode: " ++ ofFlag c.verbose,
        "  Debug mode: " ++ ofFlag c.debug]].flatten).map (· ++ "\n"))

end CommandLine

end LoopGauge
