import LoopGauge.Settings.Variable
import LoopGauge.Text.Columns

/-!
# Reference texts

The example env file, the description of the variables, and what is said when the example cannot
be written.
-/

namespace LoopGauge.EnvFile

/-- An env file that sets nothing and shows every variable. -/
def exampleContent : String :=
  Text.joinLines [
    "# Loopback Bench Configuration",
    "#",
    "# Values here are used as defaults and can be overridden by",
    "# environment variables and command-line arguments.",
    "",
    "# Total wall-clock budget in milliseconds, split evenly across sub-tests",
    "# LOOPBACK_BUDGET_MS=2000",
    "",
    "# Latency message size in bytes (TCP <= 65536, UDP <= 65000)",
    "# LOOPBACK_MESSAGE_SIZE=64",
    "",
    "# Throughput buffer/datagram size in bytes; 0 uses the transport default",
    "# LOOPBACK_BUFFER_SIZE=0",
    "",
    "# Maximum latency samples per probe (1-8192)",
    "# LOOPBACK_MAX_SAMPLES=8192",
    "",
    "# Sub-tests to run (comma-separated, or \"all\")",
    "# LOOPBACK_TESTS=tcp-latency,udp-latency,tcp-throughput,udp-throughput",
    "",
    "# Enable colored output (true/false)",
    "# ENABLE_COLOR=true",
    "",
    "# Example configurations:",
    "#",
    "# Quick latency-only check:",
    "# LOOPBACK_TESTS=tcp-latency,udp-latency",
    "# LOOPBACK_BUDGET_MS=500",
    "#",
    "# Jumbo UDP datagrams:",
    "# LOOPBACK_TESTS=udp-throughput",
    "# LOOPBACK_BUFFER_SIZE=60000"]

/-- What is said when the example cannot be written. -/
def writeFault (cause : String) : Fault :=
  ⟨.configuration, "Failed to write example .env file: " ++ cause⟩

/-- A name in the first column of the description, and a text. -/
def helpLine (name text : String) : String := "  " ++ Text.padEnd 22 name ++ " " ++ text

/-- The description of one variable. -/
def helpEntry (v : Variable) : List String :=
  [helpLine v.name v.description, helpLine "" ("Example: " ++ v.sample), ""]

/-- The description of all variables, and which setting wins. -/
def help : String :=
  Text.joinLines (["Supported Environment Variables:", ""] ++
    Variable.all.flatMap helpEntry ++
    ["Configuration Priority (highest to lowest):",
      "  1. Command-line arguments",
      "  2. Environment variables",
      "  3. .env file values",
      "  4. Default values"])

end LoopGauge.EnvFile
