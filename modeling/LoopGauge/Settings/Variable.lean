import LoopGauge.Environment
import LoopGauge.Number.Numeral
import LoopGauge.Settings.Basic

/-!
# Settings from the environment

Six variables of the environment set defaults. They are read in a fixed order, and the first
value that cannot be read ends the reading.

## Main definitions

* `Variable`: the six variables, with name, description and example.
* `Variable.assign`: puts the value of a text into the settings.
* `Settings.merge`: reads all variables of an environment.
* `Variable.objection?`: what is wrong with a value, the range of the budget included.
-/

namespace LoopGauge

open Number Text

/-- The variables that set defaults. -/
inductive Variable where
  | budget
  | messageSize
  | bufferSize
  | maxSamples
  | tests
  | colour
deriving DecidableEq, Repr

/-- Why a text is no value for a setting. -/
inductive Misreading where
  | number (problem : Numeral.Problem)
  | test (name : String)
  | flag
deriving DecidableEq, Repr

namespace Misreading

def message : Misreading → String
  | number p => p.message
  | test name => (Fault.mk .parse (SubTest.unknown name)).display
  | flag => notAFlag

end Misreading

namespace Variable

/-- The order in which the variables are read. -/
def all : List Variable := [budget, messageSize, bufferSize, maxSamples, tests, colour]

def name : Variable → String
  | budget => "LOOPBACK_BUDGET_MS"
  | messageSize => "LOOPBACK_MESSAGE_SIZE"
  | bufferSize => "LOOPBACK_BUFFER_SIZE"
  | maxSamples => "LOOPBACK_MAX_SAMPLES"
  | tests => "LOOPBACK_TESTS"
  | colour => "ENABLE_COLOR"

def description : Variable → String
  | budget => "Total run budget in milliseconds"
  | messageSize => "Latency message size in bytes"
  | bufferSize => "Throughput buffer size in bytes (0 = default)"
  | maxSamples => "Latency sample cap per probe"
  | tests => "Comma-separated sub-tests to run"
  | colour => "Enable colored output"

/-- A value to show. -/
def sample : Variable → String
  | budget => "2000"
  | messageSize => "64"
  | bufferSize => "0"
  | maxSamples => "8192"
  | tests => "tcp-latency,udp-latency"
  | colour => "true"

/-- The variable of a name. -/
def ofName? (s : String) : Option Variable := all.find? (·.name = s)

/-- What is read of a value: the value without the blanks around it. A list is read as it is, since
each of its items is freed of blanks by itself. -/
def readable (v : Variable) (value : String) : String :=
  match v with
  | tests => value
  | _ => trimmed value

/-- A word from a text. -/
def word (s : String) : Except Misreading UInt64 := (Numeral.word? s.toList).mapError .number

/-- Puts what a text says into the settings. -/
def assign (v : Variable) (text : String) (s : Settings) : Except Misreading Settings :=
  match v with
  | budget => (word text).map fun n => { s with budgetMs := n }
  | messageSize => (word text).map fun n => { s with messageSize := n }
  | bufferSize => (word text).map fun n => { s with bufferSize := n }
  | maxSamples => (word text).map fun n => { s with maxSamples := n }
  | tests => ((SubTest.readList text).mapError .test).map fun l => { s with tests := l }
  | colour =>
    match flag? text with
    | some b => .ok { s with enableColour := b }
    | none => .error .flag

/-- What is said of a value that cannot be read. -/
def refusal (v : Variable) (value : String) (m : Misreading) : Fault :=
  ⟨.configuration, "Invalid " ++ v.name ++ " value '" ++ value ++ "': " ++ m.message⟩

/-- What is said of a budget that can be read but not used. -/
def rangeRefusal (budget : UInt64) : Fault :=
  ⟨.configuration, Variable.budget.name ++ " must be between 1 and " ++
    decimal Limits.maxBudgetMillis.toNat ++ ", got: " ++ decimal budget.toNat⟩

/-- What is wrong with a value, by a reading that keeps nothing: a number, a list or a flag that
cannot be read, or a budget out of range. -/
def objection? (v : Variable) (value : String) : Option Fault :=
  let text := trimmed value
  match v with
  | budget =>
    match Numeral.word? text.toList with
    | .error p => some (budget.refusal text (.number p))
    | .ok n =>
      if n = 0 || Limits.maxBudgetMillis < n then some (rangeRefusal n) else none
  | messageSize | bufferSize | maxSamples =>
    match Numeral.word? text.toList with
    | .error p => some (v.refusal text (.number p))
    | .ok _ => none
  | tests =>
    match SubTest.readList text with
    | .error name => some (tests.refusal text (.test name))
    | .ok _ => none
  | colour =>
    match flag? text with
    | none => some (colour.refusal text .flag)
    | some _ => none

/-- What is wrong with the value of a variable of any name; other variables may hold anything. -/
def objectionTo? (name value : String) : Option Fault := do
  (← ofName? name).objection? value

end Variable

namespace Settings

/-- Reads the given variables in order; the settings read before a refusal are kept. -/
def mergeEach (env : Environment) : List Variable → Settings → Settings × Option Fault
  | [], s => (s, none)
  | v :: vs, s =>
    match env.read? v.name with
    | none => mergeEach env vs s
    | some value =>
      match v.assign (v.readable value) s with
      | .ok s => mergeEach env vs s
      | .error m => (s, some (v.refusal value m))

/-- Reads all variables of an environment. -/
def merge (env : Environment) (s : Settings) : Settings × Option Fault :=
  mergeEach env Variable.all s

end Settings

namespace Environment

/-- What is wrong with the variables that set defaults. -/
def warnings (env : Environment) : List String :=
  Variable.all.filterMap fun v => do
    let fault ← v.objection? (← env.read? v.name)
    return "Warning: " ++ fault.display

end Environment

end LoopGauge
