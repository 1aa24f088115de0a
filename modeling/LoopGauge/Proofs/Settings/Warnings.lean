import LoopGauge.Proofs.Settings.Priority
import LoopGauge.Proofs.Text.Trim
import LoopGauge.Proofs.Text.Words

/-!
# Warnings about an environment

Two readers look at the variables of an environment. One frees a value of blanks as a whole and
says what is wrong with it; the other frees what it needs and reads the value into settings, whose
range is looked at when all is read. They agree: what the first objects to, the second refuses.

## Main definitions

* `Environment.Loads`: the variables can be read into the defaults, and the result is acceptable.
* `Variable.Concerns`: a warning is about a variable.

## Main statements

* `Variable.objection?_eq`: the two readers agree on a value.
* `Environment.loads_iff`: an environment loads if nothing is wrong with any of its variables.
* `Environment.warnings_agree`: a variable is warned about if it would be refused on its own.
-/

namespace LoopGauge

open Text Settings

/-- A list of names may have blanks around it. -/
theorem SubTest.readList_trimmed (value : String) :
    SubTest.readList (trimmed value) = SubTest.readList value := by
  have hitems : listItems (trimmed value) = listItems value := by
    rw [listItems, listItems, trimmed, String.toList_ofList,
      map_trim_pieces_trim (by decide) value.toList]
  rw [readList, hitems, readList]

/-- The variables can be read into the defaults, and the result is acceptable. -/
def Environment.Loads (env : Environment) : Prop :=
  ∃ s, Settings.merge env {} = (s, none) ∧ s.problem? = none

theorem Environment.loads_iff_merge {env : Environment} :
    env.Loads ↔ (Settings.merge env {}).2 = none ∧ (Settings.merge env {}).1.problem? = none := by
  constructor
  · rintro ⟨s, hmerge, hs⟩
    rw [hmerge]
    exact ⟨rfl, hs⟩
  · rintro ⟨hnone, hs⟩
    exact ⟨_, Prod.ext rfl hnone, hs⟩

instance (env : Environment) : Decidable env.Loads :=
  decidable_of_iff _ Environment.loads_iff_merge.symm

namespace Variable

variable {v u : Variable} {value text : String}

theorem name_injective (h : v.name = u.name) : v = u := by
  cases v <;> cases u <;> first | rfl | simp [name] at h

theorem assign_trimmed (v : Variable) (value : String) (s : Settings) :
    v.assign (trimmed value) s = v.assign (v.readable value) s := by
  cases v
  case tests => simp only [assign, readable, SubTest.readList_trimmed]
  all_goals rfl

theorem problem?_put_of_ne (h : v ≠ budget) (value : Option String) :
    (v.put value {}).problem? = none := by
  cases v
  case budget => exact absurd rfl h
  all_goals rfl

/-- Of all variables only the budget can make settings unacceptable. -/
theorem problem?_foldl (read : Variable → Option String) :
    (all.foldl (fun s v => v.put (read v) s) ({} : Settings)).problem? =
      (budget.put (read budget) {}).problem? := by
  rw [problem?, budgetMs_put_all, problem?]
  rfl

/-- A budget is out of range exactly if settings with it are unacceptable. -/
theorem isSome_problem? (s : Settings) :
    s.problem?.isSome = (s.budgetMs = 0 || Limits.maxBudgetMillis < s.budgetMs) := by
  rw [problem?]
  split
  next hzero => simp [hzero]
  next hsome =>
    split
    next hlarge => simp [hlarge]
    next hfits => simp [hsome, hfits]

/-- The two readers agree: what is wrong with a value is that it cannot be assigned to the defaults,
or that these are unacceptable with it. -/
theorem objection?_eq (v : Variable) (value : String) :
    v.objection? value =
      match v.assign (trimmed value) {} with
      | .error m => some (v.refusal (trimmed value) m)
      | .ok s =>
        if v = budget && s.problem?.isSome then some (rangeRefusal s.budgetMs) else none := by
  cases v with
  | budget =>
    rw [objection?, assign, word]
    cases hword : Number.Numeral.word? (trimmed value).toList with
    | error p => rfl
    | ok n =>
      simp only [Except.mapError, Except.map, isSome_problem?, decide_true, Bool.true_and]
  | messageSize | bufferSize | maxSamples =>
    rw [objection?, assign, word]
    cases hword : Number.Numeral.word? (trimmed value).toList <;> rfl
  | tests =>
    rw [objection?, assign]
    cases SubTest.readList (trimmed value) <;> rfl
  | colour =>
    rw [objection?, assign]
    cases flag? (trimmed value) <;> rfl

/-- Nothing is wrong with a value that can be read and leaves the settings acceptable. -/
theorem objection?_eq_none_iff :
    v.objection? value = none ↔ v.Accepts value ∧ (v.put (some value) {}).problem? = none := by
  rw [objection?_eq, assign_trimmed]
  obtain ⟨haccepts, hput⟩ | ⟨hrefused, m, hm⟩ := v.assign_readable value {}
  · rw [hput]
    dsimp only
    by_cases hv : v = budget
    · rw [decide_eq_true hv, Bool.true_and, ite_eq_right_iff, iff_true_intro haccepts, true_and]
      simp
    · rw [decide_eq_false hv, Bool.false_and, if_neg Bool.false_ne_true]
      exact iff_of_true rfl ⟨haccepts, problem?_put_of_ne hv _⟩
  · rw [hm]
    simp [hrefused]

end Variable

namespace Environment

variable {env : Environment} {v : Variable} {value : String}

/-- An environment loads if nothing is wrong with any of its variables. -/
theorem loads_iff :
    env.Loads ↔ ∀ (v : Variable) value, env.read? v.name = some value →
      v.objection? value = none := by
  have hproblem := Variable.problem?_foldl fun v => env.read? v.name
  constructor
  · rintro ⟨s, hmerge, hs⟩ v value hread
    have haccepts : ∀ (v : Variable) value, env.read? v.name = some value → v.Accepts value :=
      fun v => mergeEach_none hmerge v v.mem_all
    refine Variable.objection?_eq_none_iff.2 ⟨haccepts v value hread, ?_⟩
    rw [merge_accepted {} haccepts] at hmerge
    obtain rfl := congrArg Prod.fst hmerge
    by_cases hv : v = .budget
    · subst hv
      rw [hproblem, hread] at hs
      exact hs
    · exact Variable.problem?_put_of_ne hv _
  · intro h
    have haccepts : ∀ (v : Variable) value, env.read? v.name = some value → v.Accepts value :=
      fun v value hread => (Variable.objection?_eq_none_iff.1 (h v value hread)).1
    refine ⟨_, merge_accepted {} haccepts, ?_⟩
    rw [hproblem]
    cases hread : env.read? Variable.budget.name with
    | none => rfl
    | some value => exact (Variable.objection?_eq_none_iff.1 (h .budget value hread)).2

/-- An environment with one variable loads if nothing is wrong with it. -/
theorem loads_set_iff :
    (({} : Environment).set v.name value).Loads ↔ v.objection? value = none := by
  have hread (u : Variable) : (({} : Environment).set v.name value).read? u.name =
      if v.name = u.name then some value else none :=
    read?_set {} value rfl
  rw [loads_iff]
  constructor
  · intro h
    exact h v value (by rw [hread, if_pos rfl])
  · intro h u text htext
    rw [hread] at htext
    split at htext
    next hname =>
      obtain rfl := Variable.name_injective hname
      exact Option.some.inj htext ▸ h
    next => cases htext

theorem mem_warnings_iff {text : String} :
    text ∈ env.warnings ↔ ∃ (v : Variable) (value : String) (fault : Fault),
      env.read? v.name = some value ∧ v.objection? value = some fault ∧
        text = "Warning: " ++ fault.display := by
  rw [warnings, List.mem_filterMap]
  constructor
  · rintro ⟨v, -, h⟩
    obtain ⟨value, hread, h⟩ := Option.bind_eq_some_iff.1 h
    obtain ⟨fault, hfault, h⟩ := Option.bind_eq_some_iff.1 h
    exact ⟨v, value, fault, hread, hfault, (Option.some.inj h).symm⟩
  · rintro ⟨v, value, fault, hread, hfault, rfl⟩
    exact ⟨v, v.mem_all, by rw [hread]; simp [hfault]⟩

end Environment

namespace Variable

variable {v u : Variable} {value text : String}

/-- What a warning about a variable says: its value cannot be read, or is out of range. -/
def Concerns (v : Variable) (text : String) : Prop :=
  ∃ rest, text = "Warning: Configuration error: Invalid " ++ v.name ++ " value '" ++ rest ∨
    text = "Warning: Configuration error: " ++ v.name ++ " must be between " ++ rest

theorem concerns_of_objection {fault : Fault} (h : v.objection? value = some fault) :
    v.Concerns ("Warning: " ++ fault.display) := by
  rw [objection?_eq] at h
  split at h
  next m hm =>
    obtain rfl := Option.some.inj h
    refine ⟨trimmed value ++ "': " ++ m.message, .inl ?_⟩
    simp [← String.toList_inj, refusal, Fault.display, FaultKind.heading]
  next s hs =>
    split at h
    next hbudget =>
      obtain rfl := Option.some.inj h
      rw [Bool.and_eq_true, decide_eq_true_eq] at hbudget
      obtain ⟨rfl, -⟩ := hbudget
      refine ⟨"1 and " ++ Number.decimal Limits.maxBudgetMillis.toNat ++ ", got: " ++
        Number.decimal s.budgetMs.toNat, .inr ?_⟩
      simp [← String.toList_inj, rangeRefusal, Fault.display, FaultKind.heading]
    next => cases h

theorem space_ne_of_mem_name (v : Variable) : ∀ c ∈ v.name.toList, c ≠ ' ' := by
  cases v <;> simp [name]

/-- A name at the start of a text is told by the text. -/
theorem eq_of_name_append {x y : List Char}
    (h : v.name.toList ++ ' ' :: x = u.name.toList ++ ' ' :: y) : v = u := by
  obtain ⟨hname, -⟩ := append_cons_inj (p := (· ≠ ' ')) v.space_ne_of_mem_name
    u.space_ne_of_mem_name (by simp) (by simp) h
  exact name_injective (String.toList_inj.1 hname)

/-- No name is the word with which the other kind of warning starts. -/
theorem name_append_ne (v : Variable) (x y : List Char) :
    v.name.toList ++ ' ' :: x ≠ "Invalid".toList ++ ' ' :: y := by
  cases v <;> simp [name]

/-- A warning is about one variable only. -/
theorem eq_of_concerns (hv : v.Concerns text) (hu : u.Concerns text) : v = u := by
  obtain ⟨x, rfl | rfl⟩ := hv <;> obtain ⟨y, h | h⟩ := hu
  · exact eq_of_name_append (by simpa [← String.toList_inj] using h)
  · exact absurd (by simpa [← String.toList_inj] using h.symm) (u.name_append_ne _ _)
  · exact absurd (by simpa [← String.toList_inj] using h) (v.name_append_ne _ _)
  · exact eq_of_name_append (by simpa [← String.toList_inj] using h)

end Variable

/-- **Warnings agree with loading**: there is a warning about a variable exactly if it is set and an
environment with nothing but this variable does not load, and there is none at all exactly if the
environment loads. -/
theorem Environment.warnings_agree (env : Environment) :
    (∀ v : Variable, (∃ text ∈ env.warnings, v.Concerns text) ↔
      ∃ value, env.read? v.name = some value ∧
        ¬(({} : Environment).set v.name value).Loads) ∧
      (env.warnings = [] ↔ env.Loads) := by
  constructor
  · intro v
    constructor
    · rintro ⟨text, htext, hconcerns⟩
      obtain ⟨u, value, fault, hread, hfault, rfl⟩ := mem_warnings_iff.1 htext
      obtain rfl := Variable.eq_of_concerns hconcerns (Variable.concerns_of_objection hfault)
      refine ⟨value, hread, fun hloads => ?_⟩
      rw [loads_set_iff.1 hloads] at hfault
      cases hfault
    · rintro ⟨value, hread, hrefused⟩
      rw [loads_set_iff, ← ne_eq, Option.ne_none_iff_exists'] at hrefused
      obtain ⟨fault, hfault⟩ := hrefused
      exact ⟨_, mem_warnings_iff.2 ⟨v, value, fault, hread, hfault, rfl⟩,
        Variable.concerns_of_objection hfault⟩
  · rw [loads_iff, List.eq_nil_iff_forall_not_mem]
    constructor
    · intro hnone v value hread
      by_contra hsome
      obtain ⟨fault, hfault⟩ := Option.ne_none_iff_exists'.1 hsome
      exact hnone _ (mem_warnings_iff.2 ⟨v, value, fault, hread, hfault, rfl⟩)
    · intro hload text htext
      obtain ⟨v, value, fault, hread, hfault, -⟩ := mem_warnings_iff.1 htext
      rw [hload v value hread] at hfault
      cases hfault

end LoopGauge
