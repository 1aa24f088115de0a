import LoopGauge.EnvFile.Load
import LoopGauge.Text.Pieces

/-!
# Files of a machine

A directory with the files below it, as a model: paths are resolved in it, and a file that is to
be written meets the objections of a system.

## Main definitions

* `Obstacle`: why a path leads nowhere.
* `Files`: the entries of a directory.
* `Files.lookUp`: what is found under a path.
* `Files.refusal?`: why a file cannot be written.
-/

namespace LoopGauge.Machine

open Text

/-- Why a path leads nowhere. -/
inductive Obstacle where
  | missing
  /-- Something on the way is a file. -/
  | notDirectory
  | tooLong
  /-- The path holds the character that ends paths for the system. -/
  | holdsNul
deriving DecidableEq, Repr

/-- What the system says of an obstacle. -/
def Obstacle.message : Obstacle → String
  | missing => "No such file or directory (os error 2)"
  | notDirectory => "Not a directory (os error 20)"
  | tooLong => "File name too long (os error 36)"
  | holdsNul => "file name contained an unexpected NUL byte"

/-- The most bytes of a path, and of one of its parts. -/
def maxPath : Nat := 4095
def maxPart : Nat := 255

/-- The entries below a directory: the parts of a path and a content, which a directory lacks. -/
structure Files where
  entries : List (List String × Option RawText) := []
deriving Repr, Inhabited

namespace Files

/-- The parts of a path. -/
def parts (path : String) : List String :=
  ((pieces '/' path.toList).map String.ofList).filter (· ≠ "")

/-- The files with these paths. -/
def ofList (files : List (String × Option RawText)) : Files :=
  ⟨files.map fun (path, content) => ((parts path).filter (· ≠ "."), content)⟩

/-- The entry at a place. -/
def entry? (fs : Files) (place : List String) : Option (Option RawText) :=
  (fs.entries.find? (·.1 = place)).map (·.2)

/-- Whether there is anything below a place. -/
def isAbove (fs : Files) (place : List String) : Bool :=
  fs.entries.any fun e => e.1.take place.length = place

/-- The place of the root of the machine. -/
def root : List String := ["/"]

/-- Where a path starts: at the directory or at the root. -/
def start (path : String) : List String := if path.toList.head? = some '/' then root else []

/-- The place above another. Above the directory there are only directories that are not known. -/
def above (place : List String) : List String :=
  if place = root then root
  else if place.all (· = "..") then place ++ [".."]
  else place.dropLast

/-- Where a path leads from a place; only its end may be a file. -/
def follow (fs : Files) : List String → List String → Except Obstacle (List String)
  | here, [] => .ok here
  | here, part :: rest =>
    if part = "." then follow fs here rest
    else if part = ".." then follow fs (above here) rest
    else if maxPart < part.utf8ByteSize then .error .tooLong
    else
      let next := here ++ [part]
      match fs.entry? next with
      | some (some _) => if rest.isEmpty then .ok next else .error .notDirectory
      | some none => follow fs next rest
      | none => if fs.isAbove next then follow fs next rest else .error .missing

/-- Whether a path can only be that of a directory. -/
def endsOpen (path : String) : Bool := path.toList.getLast? = some '/'

/-- What is wrong with a path before it is followed. -/
def obstacle? (path : String) : Option Obstacle :=
  if path.toList.contains '\x00' then some .holdsNul
  else if path.isEmpty then some .missing
  else if maxPath < path.utf8ByteSize then some .tooLong
  else none

/-- What is found at a place. -/
def atPlace (fs : Files) (place : List String) : FileState :=
  match fs.entry? place with
  | some (some content) => .file content
  | _ => .directory

/-- What is found under a path. -/
def lookUpText (fs : Files) (path : String) : FileState :=
  match obstacle? path, fs.follow (start path) (parts path) with
  | none, .ok place =>
    match fs.atPlace place with
    | .file content => if endsOpen path then .missing else .file content
    | other => other
  | _, _ => .missing

def lookUp (fs : Files) (path : RawText) : FileState :=
  match path.text? with
  | none => .missing
  | some path => fs.lookUpText path

/-- What the system says if a file with the last of these parts as its name cannot be written in
the directory of the others. -/
def refusalIn? (fs : Files) (path : String) (ways : List String) : Option String :=
  match fs.follow (start path) ways.dropLast with
  | .error obstacle => some obstacle.message
  | .ok place =>
    match fs.atPlace place with
    | .file _ => some Obstacle.notDirectory.message
    | _ =>
      if endsOpen path then some isDirectory
      else
        match fs.follow place (ways.drop (ways.length - 1)) with
        | .error .tooLong => some Obstacle.tooLong.message
        | .error _ => none
        | .ok target => if fs.atPlace target = .directory then some isDirectory else none

/-- What the system says if a file cannot be written under a path: it is made in a directory that
is there, and never takes the place of a directory. -/
def refusal? (fs : Files) (path : String) : Option String :=
  match obstacle? path with
  | some obstacle => some obstacle.message
  | none => fs.refusalIn? path (parts path)

end Files

end LoopGauge.Machine
