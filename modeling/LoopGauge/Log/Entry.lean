import LoopGauge.Json.Value
import LoopGauge.Log.Level
import LoopGauge.Time.Moment

/-!
# Log records

What a record holds.
-/

namespace LoopGauge.Log

/-- A place in a source text. -/
structure Location where
  file : String := ""
  line : Nat := 0
  module : Option String := none
deriving DecidableEq, Repr, Inhabited

/-- A record. The fields are sorted by key. -/
structure Entry where
  moment : Time.Moment
  level : Level := .info
  message : String := ""
  logger : String := ""
  /-- The operation to which the record belongs. -/
  correlation : Option String := none
  fields : List (String × Json.Value) := []
  location : Option Location := none
deriving Repr, Inhabited

end LoopGauge.Log
