import LoopGauge.EnvFile.Line
import LoopGauge.Fault
import LoopGauge.Settings.Variable

/-!
# Loading env files

The assignments of a file are made one line after the other. A variable that can already be read
keeps its value, so the first assignment of a file wins, and so does the environment over the file.

## Main definitions

* `FileState`: what is found under a path.
* `Loading`: the environment while a file is read.
* `load`: reads a file into an environment.
-/

namespace LoopGauge

open Text

/-- What is found under a path. -/
inductive FileState where
  | missing
  | directory
  | file (content : RawText)
deriving DecidableEq, Repr, Inhabited

/-- What is said of a text that is not UTF-8, and of a directory read as a file. -/
def notText : String := "stream did not contain valid UTF-8"
def isDirectory : String := "Is a directory (os error 21)"

namespace EnvFile

/-- Why a file cannot be loaded. -/
inductive Failure where
  | line (problem : Problem)
  | notText
  | directory
  /-- A value holds a character that no variable can hold; the program cannot go on. -/
  | unstorable
deriving DecidableEq, Repr

/-- What is said of a line that cannot be read. -/
def Problem.message (p : Problem) : String :=
  "Error parsing line: '" ++ p.text ++ "', error at line index: " ++ Number.decimal p.index

def Failure.message : Failure → String
  | line p => p.message
  | notText => LoopGauge.notText
  | directory => isDirectory
  | unstorable => "value cannot be stored"

/-- The environment while a file is read, and the values the file gave so far. -/
structure Loading where
  env : Environment
  given : List (String × String) := []

namespace Loading

/-- The value of a variable: of the environment, else of the file, else nothing. -/
def resolve (l : Loading) (name : String) : String :=
  match l.env.textAfter? name with
  | some value => value
  | none => ((l.given.find? (·.1 = name)).map (·.2)).getD ""

/-- Whether a text can be the value of a variable. -/
def storable (value : String) : Bool := !value.toList.contains '\x00'

/-- Makes an assignment. -/
def assign (l : Loading) (a : Assignment) : Except Failure Loading :=
  let given := (a.key, a.value) :: l.given
  if (l.env.read? a.key).isSome then .ok { l with given := given }
  else if storable a.value then .ok ⟨l.env.set a.key a.value, given⟩
  else .error .unstorable

/-- Reads one line. -/
def line (l : Loading) : RawText → Except Failure Loading
  | .bytes _ => .error .notText
  | .text s =>
    match Assignment.read l.resolve s.toList with
    | .error p => .error (.line p)
    | .ok none => .ok l
    | .ok (some a) => l.assign a

/-- Reads lines up to the first failure; what was assigned before it stays. -/
def lines (l : Loading) : List RawText → Environment × Option Failure
  | [] => (l.env, none)
  | s :: rest =>
    match l.line s with
    | .ok l => lines l rest
    | .error f => (l.env, some f)

end Loading

/-- Reads what is found under a path into an environment. -/
def load (env : Environment) : FileState → Environment × Option Failure
  | .missing => (env, none)
  | .directory => (env, some .directory)
  | .file content => Loading.lines ⟨env, []⟩ content.lines

/-- What is said of a file that cannot be loaded. -/
def loadFault (path : RawText) (f : Failure) : Fault :=
  ⟨.configuration, "Failed to load " ++ path.display ++ ": " ++ f.message⟩

/-- What is said about loading when asked for details; nothing if the file is refused. -/
def loadNote (path : RawText) (state : FileState) (failed : Bool) : String :=
  match state with
  | .missing =>
    "No " ++ path.display ++ " file found, using defaults and CLI arguments\n"
  | _ => if failed then "" else "Loaded configuration from " ++ path.display ++ "\n"

end EnvFile

end LoopGauge
