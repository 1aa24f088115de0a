import LoopGauge.Machine.Online
import LoopGauge.Session.Command
import Std.Async.System

/-!
# The command `lbench`

Hands the words of the command line and the environment to a session, and has the machine answer
its questions.
-/

namespace LoopGauge.Machine

/-- The environment of the process. -/
def processEnvironment : IO Environment := do
  let found ← Std.Internal.UV.System.osEnviron
  return ⟨found.toList.map fun (name, value) => (name, .text value)⟩

end LoopGauge.Machine

open LoopGauge in
/-- The program. -/
def main (words : List String) : IO UInt32 := do
  let machine ← Machine.Online.new
  let terminal ← (← IO.getStdout).isTty
  let session := Session.command (words.map .text) (← Machine.processEnvironment) terminal
  let code ← session.run machine.answer
  return UInt32.ofNat code
