import LoopGauge.Fault
import LoopGauge.Span
import LoopGauge.SubTest
import LoopGauge.Text.Flag

/-!
# Settings of a run

What a user can choose about a run, the defaults, and the one rule that makes settings
unacceptable: the budget has bounds. Sizes and caps out of range are never refused here; the
engine adjusts them.

## Main definitions

* `Settings`: the choices.
* `Settings.problem?`: what is wrong with the budget.
* `Settings.summary`: the choices as lines of text.
-/

namespace LoopGauge

open Number

/-- The choices a user can make. -/
structure Settings where
  /-- Milliseconds for the whole run. -/
  budgetMs : UInt64 := Limits.defaultBudgetMillis
  /-- Bytes of a message of the latency probes. -/
  messageSize : UInt64 := Limits.defaultMessageSize
  /-- Bytes of one write or datagram of the throughput probes; zero leaves it to the transport. -/
  bufferSize : UInt64 := 0
  maxSamples : UInt64 := Limits.maxSamples
  tests : List SubTest := SubTest.all
  enableColour : Bool := true
  json : Bool := false
  verbose : Bool := false
  debug : Bool := false
deriving DecidableEq, Repr, Inhabited

namespace Settings

/-- What can be wrong with settings. -/
inductive Problem where
  | noBudget
  | budgetTooLarge
deriving DecidableEq, Repr

def Problem.message : Problem → String
  | noBudget => "Budget must be greater than 0 ms"
  | budgetTooLarge => "Budget cannot exceed " ++ decimal Limits.maxBudgetMillis.toNat ++ " ms"

def Problem.fault (p : Problem) : Fault := ⟨.configuration, p.message⟩

/-- What is wrong with the budget, if anything. -/
def problem? (s : Settings) : Option Problem :=
  if s.budgetMs = 0 then some .noBudget
  else if Limits.maxBudgetMillis < s.budgetMs then some .budgetTooLarge
  else none

/-- The budget as a span. -/
def budget (s : Settings) : Span := Span.ofMillis s.budgetMs

/-- A size in words; zero leaves it to the transport. -/
def bufferText (size : UInt64) : String :=
  if size = 0 then "transport default" else decimal size.toNat ++ " bytes"

/-- The choices, one a line. -/
def summary (s : Settings) : String :=
  Text.join "\n" [
    "Budget: " ++ decimal s.budgetMs.toNat ++ "ms",
    "Message Size: " ++ decimal s.messageSize.toNat ++ " bytes",
    "Buffer Size: " ++ bufferText s.bufferSize,
    "Max Samples: " ++ decimal s.maxSamples.toNat,
    "Sub-tests: " ++ SubTest.listing s.tests,
    "Color Output: " ++ Text.ofFlag s.enableColour,
    "JSON Output: " ++ Text.ofFlag s.json,
    "Verbose: " ++ Text.ofFlag s.verbose,
    "Debug: " ++ Text.ofFlag s.debug]

end Settings

end LoopGauge
