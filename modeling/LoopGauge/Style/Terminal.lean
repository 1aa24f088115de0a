import LoopGauge.Environment
import LoopGauge.Style.Paint

/-!
# Ink for a terminal

Whether escapes are written at all: if the environment forces them, else if standard output is a
terminal and the environment does not forbid them. Shades are mixed where the environment says
that the terminal can.
-/

namespace LoopGauge.Style

/-- Whether a switch in the environment is on; `none` if it is not there. -/
def switch? (env : Environment) (name : String) : Option Bool :=
  (env.read? name).map (· ≠ "0")

/-- The ink for escape sequences that are written. -/
def Ink.written (env : Environment) : Ink :=
  match env.read? "COLORTERM" with
  | some "truecolor" | some "24bit" => .mixing
  | _ => .ansi

/-- The ink of a program whose standard output is a terminal or not. -/
def Ink.ofEnvironment (env : Environment) (terminal : Bool) : Ink :=
  if switch? env "CLICOLOR_FORCE" = some true then .written env
  else if (switch? env "NO_COLOR").isSome then .bare
  else if (switch? env "CLICOLOR").getD true && terminal then .written env
  else .bare

end LoopGauge.Style
