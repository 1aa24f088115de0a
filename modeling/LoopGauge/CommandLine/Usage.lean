import LoopGauge.CommandLine.Reader
import LoopGauge.Package
import LoopGauge.Text.Columns

/-!
# How to use the command

The options with their meaning, and what is said about a command line that is not accepted.
-/

namespace LoopGauge.CommandLine

open Text

/-- The options as they are written, and what they mean. -/
def optionTexts : List (String × String) := [
  ("-b, --budget-ms <MS>", "Total run budget in milliseconds, split evenly across sub-tests"),
  ("    --message-size <BYTES>", "Latency message size in bytes"),
  ("    --buffer-size <BYTES>",
    "Throughput buffer/datagram size in bytes (0 = transport default)"),
  ("    --max-samples <COUNT>", "Maximum latency samples per probe"),
  ("-t, --test <TESTS>", "Sub-test to run (repeatable; default: all four)"),
  ("    --json", "Emit results as JSON"),
  ("    --color", "Force colored output"),
  ("    --no-color", "Disable colored output"),
  ("    --verbose", "Enable verbose output"),
  ("    --debug", "Enable debug output"),
  ("    --env-file <PATH>", "Read settings from this file instead of ./.env"),
  ("    --env-example", "Print an example .env file and exit"),
  ("    --env-help", "Describe supported environment variables and exit"),
  ("-h, --help", "Print help"),
  ("-V, --version", "Print version")]

/-- How the command is called. -/
def usageLine : String := "Usage: " ++ Package.command ++ " [OPTIONS]"

/-- What is written when help is asked for. -/
def helpText : String :=
  joinLines ([Package.description, "", usageLine, "", "Options:"] ++
    optionTexts.map fun (option, meaning) => "  " ++ padEnd 28 option ++ meaning)

namespace Refusal

/-- What is said of a command line that is not accepted. -/
def message : Refusal → String
  | invalidValue => "a value is missing, empty or not one of the possible values"
  | badValue cause => "invalid value: " ++ cause
  | unknownWord => "unexpected argument"
  | givenTwice => "an option cannot be used multiple times"
  | tooManyValues => "unexpected value for an option that takes none"
  | notText => "invalid UTF-8 was detected in an argument"
  | helpWanted | versionWanted => ""

/-- What is written to standard error. -/
def errorText (r : Refusal) : String :=
  joinLines ["error: " ++ r.message, "", usageLine, "", "For more information, try '--help'."]

end Refusal

end LoopGauge.CommandLine
