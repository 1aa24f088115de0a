import LoopGauge.Limits
import LoopGauge.Style.Paint

/-!
# Faults

What can go wrong, sorted by kind. The kind decides the name under which a fault is reported,
its colour, whether another try may help, the advice to the user, and the exit code.

## Main definitions

* `Fault`: a kind and a message.
* `Fault.display`, `Fault.console`, `Fault.friendly`: its texts for records, terminals and users.
* `Fault.report`: all that is written about a fault that ends the program.
-/

namespace LoopGauge

open Style

/-- The kinds of fault. -/
inductive FaultKind where
  | configuration
  | socket
  | transport
  | timeout
  | validation
  | inputOutput
  | parse
  | resource
  | testExecution
  | internal
deriving DecidableEq, Repr

namespace FaultKind

/-- The name in reports and records. -/
def category : FaultKind → String
  | configuration => "CONFIG"
  | socket => "SOCKET"
  | transport => "TRANSPORT"
  | timeout => "TIMEOUT"
  | validation => "VALIDATION"
  | inputOutput => "IO"
  | parse => "PARSE"
  | resource => "RESOURCE"
  | testExecution => "TEST"
  | internal => "INTERNAL"

/-- What a message of this kind starts with. -/
def heading : FaultKind → String
  | configuration => "Configuration error: "
  | socket => "Socket setup error: "
  | transport => "Transport error: "
  | timeout => "Timeout error: "
  | validation => "Validation error: "
  | inputOutput => "I/O error: "
  | parse => "Parsing error: "
  | resource => "Resource error: "
  | testExecution => "Test execution error: "
  | internal => "Internal error: "

/-- Whether another run may succeed. -/
def recoverable : FaultKind → Bool
  | socket | transport | timeout => true
  | configuration | validation | parse => false
  | inputOutput | resource | testExecution | internal => false

/-- The exit code of a program that ends with such a fault. -/
def exitCode : FaultKind → Nat
  | configuration | validation | parse => 1
  | socket | transport => 7
  | timeout => 3
  | resource => 4
  | inputOutput => 5
  | testExecution => 6
  | internal => 99

/-- The colour in which such a fault is shown. -/
def colour : FaultKind → Colour
  | configuration | validation | parse => .red
  | socket | transport => .yellow
  | timeout => .blue
  | resource => .magenta
  | inputOutput | testExecution => .cyan
  | internal => .brightRed

/-- What is said to a user before the message. -/
def introduction : FaultKind → String
  | configuration => "Configuration problem: "
  | socket => "Could not set up a loopback socket: "
  | transport => "Loopback transfer failed: "
  | timeout => "Operation timed out: "
  | validation => "Invalid input: "
  | inputOutput => "I/O operation failed: "
  | parse => "Failed to parse value: "
  | resource => "Out of resources: "
  | testExecution => "Benchmark failed: "
  | internal => "Internal error: "

/-- What a user may try. -/
def advice : FaultKind → String
  | configuration => "Suggestion: Check your .env file or command line arguments."
  | socket =>
    "Suggestion: Check that the loopback interface is up and that ports " ++
      toString Limits.firstPort ++ "-" ++ toString (Limits.firstPort + Limits.portWindow - 1) ++
      " are not exhausted."
  | transport => "Suggestion: This is usually transient. Run the benchmark again."
  | timeout => "Suggestion: The host may be heavily loaded. Increase --budget-ms or retry."
  | validation => "Suggestion: Check budget, message size and buffer size values."
  | inputOutput => "Suggestion: Check file permissions and terminal output."
  | parse => "Suggestion: Check the format of your arguments or environment variables."
  | resource => "Suggestion: Reduce --buffer-size or --max-samples."
  | testExecution => "Suggestion: Run with --debug to see which sub-tests failed."
  | internal => "This is likely a bug. Please report this issue with the error details."

end FaultKind

/-- A fault: its kind and what happened. -/
structure Fault where
  kind : FaultKind
  message : String
deriving DecidableEq, Repr

namespace Fault

/-- The text in records and messages. -/
def display (f : Fault) : String := f.kind.heading ++ f.message

def exitCode (f : Fault) : Nat := f.kind.exitCode

/-- The text on a terminal, in colour if asked for and if the terminal takes it. -/
def console (ink : Ink) (useColour : Bool) (f : Fault) : String :=
  let tag := f.kind.category
  let text := f.display
  if useColour then
    "[" ++ (Paint.boldOf f.kind.colour).apply ink tag ++ "] " ++
      (Paint.of f.kind.colour).apply ink text
  else "[" ++ tag ++ "] " ++ text

/-- The explanation for a user, with advice. -/
def friendly (f : Fault) : String :=
  f.kind.introduction ++ f.message ++ "\n\n" ++ f.kind.advice

/-- What is said of a fault that may pass. -/
def hopeful : String :=
  "This error might be temporary. You can try running the command again."

/--
All that is written about a fault that ends the program: one line, and for a verbose report the
explanation and, if another run may succeed, a word of hope.
-/
def report (ink : Ink) (useColour verbose : Bool) (f : Fault) : String :=
  f.console ink useColour ++ "\n" ++
    if verbose then
      "\n" ++ f.friendly ++ "\n" ++
        if f.kind.recoverable then
          "\n" ++ (if useColour then (Paint.of .green).apply ink hopeful else hopeful) ++ "\n"
        else ""
    else ""

end Fault

end LoopGauge
