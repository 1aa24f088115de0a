import LoopGauge.Plan
import LoopGauge.Style.Paint

/-!
# Advice on settings

What a user should know about settings that are acceptable: which of them the engine will adjust,
and which make for poor or long runs.

## Main definitions

* `Advice`: one thing to know.
* `Settings.advice`: all there is to know, or what makes the settings unacceptable.
-/

namespace LoopGauge

open Number Style

/-- How serious an advice is. -/
inductive AdviceLevel where
  | info
  | warning
  | error
deriving DecidableEq, Repr

namespace AdviceLevel

def name : AdviceLevel → String
  | info => "INFO"
  | warning => "WARNING"
  | error => "ERROR"

def colour : AdviceLevel → Colour
  | info => .blue
  | warning => .yellow
  | error => .red

/-- A message behind its level. -/
def shown (level : AdviceLevel) (ink : Ink) (useColour : Bool) (message : String) : String :=
  let tag := "[" ++ level.name ++ "]"
  (if useColour then (Paint.boldOf level.colour).apply ink tag else tag) ++ " " ++ message

end AdviceLevel

/-- One thing to know about settings. -/
inductive Advice where
  | nothingEnabled
  | messageSize (requested : UInt64) (test : SubTest) (used : UInt64)
  /-- A message too short for the number of its round. -/
  | untagged (size : UInt64)
  | bufferSize (requested : UInt64) (test : SubTest) (used : UInt64)
  | sampleCap (requested used : UInt64)
  | shortSlice (slice : Span)
  | longRun (budgetMs : UInt64)
deriving DecidableEq, Repr

namespace Advice

/-- Slices below this rarely give useful figures. -/
def usefulSlice : Span := Span.ofMillis 20

/-- Budgets above this make long runs. -/
def longBudgetMillis : UInt64 := 60000

def level : Advice → AdviceLevel
  | nothingEnabled | shortSlice _ => .warning
  | messageSize .. | untagged _ | bufferSize .. | sampleCap .. | longRun _ => .info

/-- A value out of range and what is used in its place. -/
def adjusted (what : String) (requested : UInt64) (t : SubTest) (used : UInt64) : String :=
  what ++ " " ++ decimal requested.toNat ++ " is out of range for " ++ t.name ++ "; using " ++
    decimal used.toNat ++ " bytes"

def message : Advice → String
  | nothingEnabled => "No sub-tests enabled; every result will be reported as unsuccessful"
  | messageSize requested t used => adjusted "Message size" requested t used
  | untagged size =>
    "Message size " ++ decimal size.toNat ++
      " is too small to tag UDP rounds; late echoes may be counted"
  | bufferSize requested t used => adjusted "Buffer size" requested t used
  | sampleCap requested used =>
    "Sample cap " ++ decimal requested.toNat ++ " is out of range; using " ++ decimal used.toNat
  | shortSlice slice =>
    "Each sub-test gets only " ++ slice.asMillis.fixed 1 ++
      "ms; results may be empty or noisy (recommended: >= " ++
      decimal usefulSlice.millisWord.toNat ++ "ms)"
  | longRun ms => "Budget of " ++ decimal ms.toNat ++ "ms makes for a long run"

/-- The advice as it is shown. -/
def shown (a : Advice) (ink : Ink) (useColour : Bool) : String :=
  a.level.shown ink useColour a.message

end Advice

namespace Settings

/-- What the engine makes of the sizes for one sub-test. -/
def sizeAdvice (s : Settings) (t : SubTest) : List Advice :=
  if t.isLatency then
    let used := Limits.messageSize t.transport s.messageSize
    if used ≠ s.messageSize then [.messageSize s.messageSize t used]
    else if t.transport = .udp && s.messageSize < Limits.roundTagLength then
      [.untagged s.messageSize]
    else []
  else
    let used := Limits.bufferSize t.transport s.bufferSize
    if s.bufferSize ≠ 0 && used ≠ s.bufferSize then [.bufferSize s.bufferSize t used] else []

/-- What the engine makes of the cap on samples. -/
def capAdvice (s : Settings) : List Advice :=
  let used := Limits.sampleCap s.maxSamples
  if s.tests.any SubTest.isLatency && used ≠ s.maxSamples then [.sampleCap s.maxSamples used]
  else []

/-- What is to be said of the slices. -/
def sliceAdvice (s : Settings) : List Advice :=
  match (Plan.ofSettings s).slice? with
  | some slice => if slice < Advice.usefulSlice then [.shortSlice slice] else []
  | none => []

/-- All there is to know about acceptable settings. -/
def advice (s : Settings) : List Advice :=
  (if s.tests.isEmpty then [.nothingEnabled] else []) ++
    s.tests.flatMap s.sizeAdvice ++ s.capAdvice ++ s.sliceAdvice ++
    if Advice.longBudgetMillis < s.budgetMs then [.longRun s.budgetMs] else []

/-- All there is to know, unless the settings are unacceptable. -/
def review (s : Settings) : Except Problem (List Advice) :=
  match s.problem? with
  | some p => .error p
  | none => .ok s.advice

end Settings

end LoopGauge
