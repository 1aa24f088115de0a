import LoopGauge.Fault
import LoopGauge.Text.Casing

/-!
# Levels of log records

Six levels, from the most detailed to the most serious.

## Main definitions

* `Level.read?`, `Level.parse`: the level of a word in any letter case.
* `Level.rank`: the place among the levels.
-/

namespace LoopGauge.Log

/-- How serious a record is. -/
inductive Level where
  | trace | debug | info | warn | error | fatal
deriving DecidableEq, Repr, Inhabited

namespace Level

def all : List Level := [trace, debug, info, warn, error, fatal]

/-- The name in lines of text. -/
def name : Level → String
  | trace => "TRACE"
  | debug => "DEBUG"
  | info => "INFO"
  | warn => "WARN"
  | error => "ERROR"
  | fatal => "FATAL"

/-- The name in documents. -/
def key : Level → String
  | trace => "Trace"
  | debug => "Debug"
  | info => "Info"
  | warn => "Warn"
  | error => "Error"
  | fatal => "Fatal"

/-- The first letter of the name. -/
def initial : Level → Char
  | trace => 'T'
  | debug => 'D'
  | info => 'I'
  | warn => 'W'
  | error => 'E'
  | fatal => 'F'

/-- The sequence that starts the colour of a level on a terminal. -/
def colourSequence : Level → String
  | trace => "\x1b[37m"
  | debug => "\x1b[36m"
  | info => "\x1b[32m"
  | warn => "\x1b[33m"
  | error => "\x1b[31m"
  | fatal => "\x1b[35m"

/-- The sequence that ends it. -/
def resetSequence : String := "\x1b[0m"

/-- The place among the levels. -/
def rank : Level → Nat
  | trace => 0
  | debug => 1
  | info => 2
  | warn => 3
  | error => 4
  | fatal => 5

/-- Whether a level is at least as serious as another. -/
def atLeast (l least : Level) : Bool := least.rank ≤ l.rank

/-- The level of a name in documents. -/
def ofKey? (s : String) : Option Level := all.find? (·.key = s)

/-- The level of a word in any letter case; `warning` is a second word for `warn`. -/
def read? (s : String) : Option Level :=
  let word := String.ofList (Text.uppercase s.toList)
  if word = "WARNING" then some warn else all.find? (·.name = word)

/-- What is said of a word that names no level. -/
def unknown (s : String) : String := "Invalid log level: " ++ s

/-- The level that a word names, or the fault that it names none. -/
def parse (s : String) : Except Fault Level :=
  match read? s with
  | some l => .ok l
  | none => .error ⟨.parse, unknown s⟩

end Level

end LoopGauge.Log
