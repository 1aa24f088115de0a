import LoopGauge.Environment

/-!
# Reading an environment after setting a variable

A variable that was set reads as what it was set to, and every other variable reads as before.
-/

namespace LoopGauge.Environment

open Text

variable (env : Environment) {name other : String} (value : String)

private theorem find?_filter_of_ne (entries : List (String × RawText)) (h : other ≠ name) :
    (entries.filter (·.1 ≠ name)).find? (·.1 = other) = entries.find? (·.1 = other) := by
  induction entries with
  | nil => rfl
  | cons entry rest ih =>
    by_cases hname : entry.1 = name
    · have hother : entry.1 ≠ other := fun e => h (e.symm.trans hname)
      rw [List.filter_cons_of_neg (by simpa using hname),
        List.find?_cons_of_neg (by simpa using hother)]
      exact ih
    · rw [List.filter_cons_of_pos (by simpa using hname), List.find?_cons, List.find?_cons, ih]

private theorem find?_filter_self (entries : List (String × RawText)) :
    (entries.filter (·.1 ≠ name)).find? (·.1 = name) = none := by
  rw [List.find?_eq_none]
  intro entry hentry
  have hne := (List.mem_filter.1 hentry).2
  simpa using hne

@[simp]
theorem read?_set_self : (env.set name value).read? name = some value := by
  have hfind : (env.set name value).value? name = some (.text value) := by
    simp only [value?, set, List.find?_append, find?_filter_self, Option.none_or]
    simp
  rw [read?, hfind]
  rfl

theorem read?_set_of_ne (h : other ≠ name) :
    (env.set name value).read? other = env.read? other := by
  have hlast : [(name, RawText.text value)].find? (·.1 = other) = none := by
    rw [List.find?_cons_of_neg (by simpa using h.symm)]
    rfl
  have hfind : (env.set name value).value? other = env.value? other := by
    simp only [value?, set, List.find?_append, find?_filter_of_ne env.entries h, hlast,
      Option.or_none]
  rw [read?, hfind]
  rfl

/-- Setting a variable fills the place of one that cannot be read, and no other. -/
theorem read?_set (h : env.read? name = none) :
    (env.set name value).read? other =
      (env.read? other).or (if name = other then some value else none) := by
  by_cases hname : other = name
  · subst hname
    rw [read?_set_self, h]
    simp
  · rw [read?_set_of_ne env value hname, if_neg (fun e => hname e.symm), Option.or_none]

end LoopGauge.Environment
