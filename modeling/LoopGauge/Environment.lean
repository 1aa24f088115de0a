import LoopGauge.Text.Pieces
import LoopGauge.Text.Raw

/-!
# Environments

Named values that a process is given. A value need not be readable text; where it is not, the
variable counts as unset for every reader of text.

## Main definitions

* `Environment.read?`: the text of a variable.
* `Environment.textAfter?`: the text after a name that may hold an equals sign.
* `Environment.set`: gives a variable a value.
-/

namespace LoopGauge

open Text

/-- The variables with their values. -/
structure Environment where
  entries : List (String × RawText) := []
deriving DecidableEq, Repr, Inhabited

namespace Environment

/-- The value of a variable. -/
def value? (env : Environment) (name : String) : Option RawText :=
  (env.entries.find? (·.1 = name)).map (·.2)

/-- The text of a variable that is set to readable text. -/
def read? (env : Environment) (name : String) : Option String :=
  (env.value? name).bind RawText.text?

/-- What remains of a text after another at its front. -/
def after? : (front cs : List Char) → Option (List Char)
  | [], cs => some cs
  | _ :: _, [] => none
  | f :: fs, c :: cs => if f = c then after? fs cs else none

/-- The text after `name=` in an environment of entries `owner=value`. A name with an equals
sign may so reach into the value of a variable. -/
def textAfter? (env : Environment) (name : String) : Option String :=
  match cutAt? '=' name.toList with
  | none => env.read? name
  | some (owner, start) => do
    let value ← env.read? (String.ofList owner)
    return String.ofList (← after? (start ++ ['=']) value.toList)

/-- Gives a variable a value, in place of any it had. -/
def set (env : Environment) (name : String) (value : String) : Environment :=
  ⟨env.entries.filter (·.1 ≠ name) ++ [(name, .text value)]⟩

end Environment

end LoopGauge
