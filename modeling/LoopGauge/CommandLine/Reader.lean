import LoopGauge.CommandLine.Basic
import LoopGauge.CommandLine.Word

/-!
# Reading command lines

Words are read from left to right. The value of an option may follow as a word of its own; it is
looked at only when the next option is read or the line ends, so that an unknown word right after
it is refused first.

## Main definitions

* `Switch`: the options.
* `Refusal`: why a command line is not accepted, with its exit code.
* `CommandLine.read`: the options of a command line.
-/

namespace LoopGauge.CommandLine

open Number Text

/-- The options that take a value. -/
inductive Setting where
  | budget | messageSize | bufferSize | maxSamples | test | envFile
deriving DecidableEq, Repr

/-- The options that take none. -/
inductive Switch where
  | json | colour | noColour | verbose | debug | envExample | envHelp | help | version
deriving DecidableEq, Repr

/-- An option. -/
inductive Choice where
  | setting (s : Setting)
  | switch (s : Switch)
deriving DecidableEq, Repr

/-- Why a command line is not accepted. -/
inductive Refusal where
  | invalidValue
  /-- A value of the wrong form, and what is wrong with it. -/
  | badValue (cause : String)
  | unknownWord
  | givenTwice
  | tooManyValues
  | notText
  | helpWanted
  | versionWanted
deriving DecidableEq, Repr

namespace Refusal

/-- Asking for help or for the version is no failure. -/
def exitCode : Refusal → Nat
  | helpWanted | versionWanted => 0
  | _ => 2

end Refusal

/-- The option of a long name. -/
def longName? (name : String) : Option Choice :=
  match name with
  | "budget-ms" => some (.setting .budget)
  | "message-size" => some (.setting .messageSize)
  | "buffer-size" => some (.setting .bufferSize)
  | "max-samples" => some (.setting .maxSamples)
  | "test" => some (.setting .test)
  | "env-file" => some (.setting .envFile)
  | "json" => some (.switch .json)
  | "color" => some (.switch .colour)
  | "no-color" => some (.switch .noColour)
  | "verbose" => some (.switch .verbose)
  | "debug" => some (.switch .debug)
  | "env-example" => some (.switch .envExample)
  | "env-help" => some (.switch .envHelp)
  | "help" => some (.switch .help)
  | "version" => some (.switch .version)
  | _ => none

/-- The option of a short name: `b`, `t`, `h` or `V`. -/
def shortName? (b : UInt8) : Option Choice :=
  if b = 98 then some (.setting .budget)
  else if b = 116 then some (.setting .test)
  else if b = 104 then some (.switch .help)
  else if b = 86 then some (.switch .version)
  else none

/-- Why a text is no budget. -/
inductive BudgetProblem where
  | unreadable (text : String)
  | zero
  | tooLarge
deriving DecidableEq, Repr

def BudgetProblem.message : BudgetProblem → String
  | unreadable s => "Invalid budget: " ++ s
  | zero => "Budget must be greater than 0"
  | tooLarge => "Budget cannot exceed " ++ decimal Limits.maxBudgetMillis.toNat ++ " ms"

/-- What a budget must not start with: a sign, or the mark of a hexadecimal numeral. -/
def budgetMarks : List (List Char) := [['+'], ['0', 'x'], ['0', 'X']]

/-- A budget on the command line: digits alone, within the bounds. -/
def readBudget (s : String) : Except BudgetProblem UInt64 :=
  if budgetMarks.any (·.isPrefixOf s.toList) then .error (.unreadable s)
  else
    match Numeral.word? s.toList with
    | .error _ => .error (.unreadable s)
    | .ok n =>
      if n = 0 then .error .zero
      else if Limits.maxBudgetMillis < n then .error .tooLarge
      else .ok n

/-- A word as the number of an option. -/
def readWord (s : String) : Except String UInt64 :=
  (Numeral.word? s.toList).mapError Numeral.Problem.message

/-- The text of a value that must be readable. -/
def readable (value : RawText) : Except Refusal String :=
  match value.text? with
  | some s => .ok s
  | none => .error .notText

/-- A number given for an option that may be given once. -/
def setNumber (read : String → Except String UInt64) (old : Option UInt64) (value : RawText) :
    Except Refusal (Option UInt64) := do
  if old.isSome then .error .givenTwice
  else
    let s ← readable value
    (read s).mapError .badValue |>.map some

/-- Takes an option with its value. -/
def setValue (c : CommandLine) (value : RawText) : Setting → Except Refusal CommandLine
  | .budget => do
    let read s := (readBudget s).mapError BudgetProblem.message
    return { c with budgetMs := ← setNumber read c.budgetMs value }
  | .messageSize => do
    return { c with messageSize := ← setNumber readWord c.messageSize value }
  | .bufferSize => do
    return { c with bufferSize := ← setNumber readWord c.bufferSize value }
  | .maxSamples => do
    return { c with maxSamples := ← setNumber readWord c.maxSamples value }
  | .test =>
    match value.text?.bind SubTest.ofName? with
    | some t => .ok { c with tests := c.tests ++ [t] }
    | none => .error .invalidValue
  | .envFile =>
    if c.envFile.isSome then .error .givenTwice
    else if value.isEmpty then .error .invalidValue
    else .ok { c with envFile := some value }

/-- Sets a flag that may be given once. -/
def raised (old : Bool) (c : CommandLine) : Except Refusal CommandLine :=
  if old then .error .givenTwice else .ok c

/-- Takes an option without a value. -/
def setSwitch (c : CommandLine) : Switch → Except Refusal CommandLine
  | .json => raised c.json { c with json := true }
  | .colour => raised c.colour { c with colour := true }
  | .noColour => raised c.noColour { c with noColour := true }
  | .verbose => raised c.verbose { c with verbose := true }
  | .debug => raised c.debug { c with debug := true }
  | .envExample => raised c.envExample { c with envExample := true }
  | .envHelp => raised c.envHelp { c with envHelp := true }
  | .help => .error .helpWanted
  | .version => .error .versionWanted

/-- The options so far, and an option whose value is yet to be looked at. -/
structure Reading where
  line : CommandLine := {}
  pending : Option (Setting × Option RawText) := none

namespace Reading

/-- Looks at the value of the option before. -/
def settle (r : Reading) : Except Refusal CommandLine :=
  match r.pending with
  | none => .ok r.line
  | some (_, none) => .error .invalidValue
  | some (s, some value) => setValue r.line value s

/-- An option without a value. -/
def switch (r : Reading) (s : Switch) : Except Refusal Reading := do
  return { line := ← setSwitch (← r.settle) s }

/-- An option with a value that is joined to it, or else to follow. -/
def setting (r : Reading) (s : Setting) (joined : Option RawText) : Except Refusal Reading := do
  let line ← r.settle
  match joined with
  | some value => return { line := ← setValue line value s }
  | none => return { line := line, pending := some (s, none) }

/-- A value joined to an option with a short name: what follows it, less an equals sign. -/
def joinedValue : List UInt8 → Option RawText
  | [] => none
  | b :: rest => some (.ofBytes (if b = equalsSign then rest else b :: rest))

/-- A group of options with short names. -/
def shorts (r : Reading) : List UInt8 → Except Refusal Reading
  | [] => .ok r
  | b :: rest =>
    match shortName? b with
    | none => .error .unknownWord
    | some (.setting s) => r.setting s (joinedValue rest)
    | some (.switch s) => do
      shorts (← r.switch s) rest

/-- An option with a long name. -/
def long (r : Reading) (name : RawText) (value : Option RawText) : Except Refusal Reading :=
  match name.text?.bind longName? with
  | none => .error .unknownWord
  | some (.setting s) => r.setting s value
  | some (.switch s) => if value.isSome then .error .tooManyValues else r.switch s

/-- A word that is no option: the value of the option before, if that waits for one. -/
def operand (r : Reading) (w : RawText) : Except Refusal Reading :=
  match r.pending with
  | some (s, none) => .ok { r with pending := some (s, some w) }
  | _ => .error .unknownWord

/-- Reads on. After the mark that ends the options no word is accepted. -/
def words (r : Reading) : List RawText → Except Refusal CommandLine
  | [] => r.settle
  | w :: ws =>
    match Word.ofRaw w with
    | .mark => if ws.isEmpty then r.settle else .error .unknownWord
    | .long name value => do
      words (← r.long name value) ws
    | .short bytes => do
      words (← r.shorts bytes) ws
    | .other => do
      words (← r.operand w) ws

end Reading

/-- The options of a command line. -/
def read (words : List RawText) : Except Refusal CommandLine := Reading.words {} words

end LoopGauge.CommandLine
