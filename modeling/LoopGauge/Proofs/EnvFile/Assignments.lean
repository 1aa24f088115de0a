import LoopGauge.EnvFile.Load
import LoopGauge.Proofs.Environment

/-!
# What loading an env file does to the environment

The assignments of a file are listed in the order in which they are made, each with its value after
substitution. A file that loads gives every variable that could not be read before the value of
its first assignment, and changes nothing else that can be read.

## Main definitions

* `assignments`: the assignments of a file in an environment.
* `firstValue?`: the value of the first assignment to a variable.

## Main statements

* `read?_load`: what can be read after loading.
-/

namespace LoopGauge.EnvFile

open Text

/-- The value of the first assignment to a variable. -/
def firstValue? (name : String) (as : List Assignment) : Option String :=
  (as.find? (·.key = name)).map (·.value)

theorem firstValue?_append (name : String) (as bs : List Assignment) :
    firstValue? name (as ++ bs) = (firstValue? name as).or (firstValue? name bs) := by
  rw [firstValue?, List.find?_append, Option.map_or]
  rfl

theorem firstValue?_singleton (name : String) (a : Assignment) :
    firstValue? name [a] = if a.key = name then some a.value else none := by
  by_cases h : a.key = name <;> simp [firstValue?, h]

namespace Loading

/-- The assignment of a line, if it can be read and is not a comment. -/
def assignment? (l : Loading) : RawText → Option Assignment
  | .bytes _ => none
  | .text s =>
    match Assignment.read l.resolve s.toList with
    | .ok a => a
    | .error _ => none

/-- The assignments of lines up to the first failure, in order. -/
def assignments (l : Loading) : List RawText → List Assignment
  | [] => []
  | s :: rest =>
    (l.assignment? s).toList ++
      match l.line s with
      | .ok l => assignments l rest
      | .error _ => []

variable {l l' : Loading} (name : String)

theorem read?_of_assign {a : Assignment} (h : l.assign a = .ok l') :
    l'.env.read? name = (l.env.read? name).or (firstValue? name [a]) := by
  rw [firstValue?_singleton]
  unfold assign at h
  dsimp only at h
  split at h
  · next hkept =>
    -- The variable could be read already, so the file does not reach it.
    obtain rfl := Except.ok.inj h
    by_cases hname : a.key = name
    · subst hname
      obtain ⟨old, hold⟩ := Option.isSome_iff_exists.1 hkept
      simp [hold]
    · simp [hname]
  · next hfree =>
    split at h
    · obtain rfl := Except.ok.inj h
      exact l.env.read?_set a.value (by simpa using hfree)
    · cases h

theorem read?_of_line {s : RawText} (h : l.line s = .ok l') :
    l'.env.read? name = (l.env.read? name).or (firstValue? name (l.assignment? s).toList) := by
  cases s with
  | bytes b => simp [line] at h
  | text s =>
    simp only [line] at h
    simp only [assignment?]
    split at h
    · cases h
    · next hread =>
      obtain rfl := Except.ok.inj h
      simp [hread, firstValue?]
    · next a hread =>
      rw [hread]
      exact read?_of_assign name h

theorem read?_of_lines {ss : List RawText} {env : Environment} (h : l.lines ss = (env, none)) :
    env.read? name = (l.env.read? name).or (firstValue? name (l.assignments ss)) := by
  -- By induction on the lines: what a line adds counts only where no line before it has added.
  induction ss generalizing l with
  | nil =>
    obtain rfl : l.env = env := congrArg Prod.fst h
    simp [assignments, firstValue?]
  | cons s rest ih =>
    simp only [lines] at h
    split at h
    · next l₁ hline =>
      rw [ih h, read?_of_line name hline, assignments, hline, firstValue?_append, Option.or_assoc]
    · cases h

end Loading

/-- The assignments of what is found under a path, in order, read in an environment. -/
def assignments (env : Environment) : FileState → List Assignment
  | .missing | .directory => []
  | .file content => Loading.assignments ⟨env, []⟩ content.lines

/-- **The first assignment wins, and the environment over the file.** -/
theorem read?_load {env : Environment} {file : FileState} (h : (load env file).2 = none)
    (name : String) :
    (load env file).1.read? name =
      (env.read? name).or (firstValue? name (assignments env file)) := by
  cases file with
  | missing => simp [load, assignments, firstValue?]
  | directory => cases h
  | file content =>
    have hlines : Loading.lines ⟨env, []⟩ content.lines = ((load env (.file content)).1, none) :=
      Prod.ext rfl h
    exact Loading.read?_of_lines name hlines

end LoopGauge.EnvFile
