import LoopGauge.EnvFile.Load
import LoopGauge.Json.Remark
import LoopGauge.Number.Numeral

/-!
# Failures of other parts as faults

What a failure outside the program proper amounts to: its kind, and the words put before its text.
-/

namespace LoopGauge

open Number

/-- Why no memory is given. -/
inductive MemoryProblem where
  /-- More was asked for than there can be. -/
  | tooLarge
  | exhausted
deriving DecidableEq, Repr

def MemoryProblem.message : MemoryProblem → String
  | tooLarge => "memory allocation failed because the computed capacity exceeded the " ++
      "collection's maximum"
  | exhausted => "memory allocation failed because the memory allocator returned an error"

/-- A failure that is reported as a fault. -/
inductive FaultSource where
  /-- The system refused an operation. -/
  | system (text : String)
  /-- A document could not be read. -/
  | document (remark : Json.Remark)
  | envFile (problem : EnvFile.Problem)
  /-- A time limit ran out. -/
  | deadline
  | number (problem : Numeral.Problem)
  | flag
  | memory (problem : MemoryProblem)
deriving DecidableEq, Repr

namespace FaultSource

def fault : FaultSource → Fault
  | system text => ⟨.inputOutput, text⟩
  | document r => ⟨.parse, "JSON error: " ++ r.message⟩
  | envFile p => ⟨.configuration, "Environment file error: " ++ p.message⟩
  | deadline => ⟨.timeout, "deadline has elapsed"⟩
  | number p => ⟨.parse, "Integer parse error: " ++ p.message⟩
  | flag => ⟨.parse, "Boolean parse error: " ++ Text.notAFlag⟩
  | memory p => ⟨.resource, "Buffer allocation failed: " ++ p.message⟩

end FaultSource

end LoopGauge
