import LoopGauge.EnvFile.Load

/-!
# Checking env files

A file is looked over without loading it: every line that sets one of the variables of the
program to something unacceptable is reported.
-/

namespace LoopGauge.EnvFile

open Text

/-- What is wrong with a line, if it sets a variable of the program. -/
def lineWarning? (line : List Char) : Option String := do
  let line := trim line
  if line.isEmpty || line.head? == some '#' then none
  else
    let (key, value) ← cutAt? '=' line
    let fault ← Variable.objectionTo? (String.ofList (trim key)) (String.ofList value)
    return "Line '" ++ String.ofList line ++ "': " ++ fault.display

/-- What is wrong with the lines of a text. -/
def warnings (content : String) : List String := (lines content.toList).filterMap lineWarning?

/-- What is said of a file that cannot be read. -/
def readFault (path : RawText) (cause : String) : Fault :=
  ⟨.configuration, "Failed to read " ++ path.display ++ ": " ++ cause⟩

/-- The warnings about what is found under a path; `none` if nothing is. -/
def check (path : RawText) : FileState → Except Fault (Option (List String))
  | .missing => .ok none
  | .directory => .error (readFault path isDirectory)
  | .file (.bytes _) => .error (readFault path notText)
  | .file (.text s) => .ok (some (warnings s))

end LoopGauge.EnvFile
