/-!
# Reading yes and no

A flag is written `true` or `false`, in these letters exactly.
-/

namespace LoopGauge.Text

/-- The flag that a text stands for. -/
def flag? (s : String) : Option Bool :=
  if s = "true" then some true
  else if s = "false" then some false
  else none

/-- What is said of a text that stands for no flag. -/
def notAFlag : String := "provided string was not \x60true\x60 or \x60false\x60"

/-- The text of a flag. -/
def ofFlag (b : Bool) : String := if b then "true" else "false"

end LoopGauge.Text
