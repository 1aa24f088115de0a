import LoopGauge.Settings.Variable

/-!
# Reading settings from an environment

Each variable has its values, and a value changes one setting. Reading variables succeeds exactly
when each of them that is set has a value of its own; then every setting is the value of its
variable, or what it was before.

## Main definitions

* `Variable.Accepts`: the values of a variable.
* `wordOf?`, `testsOf?`, `flagOf?`: what the value of a variable says.
* `Variable.put`: the settings with the value of a variable.

## Main statements

* `mergeEach_accepted`, `mergeEach_refused`: what becomes of settings when variables are read.
-/

namespace LoopGauge

open Text

/-- The word that a value says. -/
def wordOf? (value : Option String) : Option UInt64 :=
  value.bind fun text => (Variable.word (trimmed text)).toOption

/-- The sub-tests that a value lists. -/
def testsOf? (value : Option String) : Option (List SubTest) :=
  value.bind fun text => (SubTest.readList text).toOption

/-- The flag that a value says. -/
def flagOf? (value : Option String) : Option Bool :=
  value.bind fun text => flag? (trimmed text)

namespace Variable

/-- Whether a text is a value of the variable. -/
def Accepts (v : Variable) (value : String) : Prop :=
  match v with
  | budget | messageSize | bufferSize | maxSamples => (wordOf? (some value)).isSome
  | tests => (testsOf? (some value)).isSome
  | colour => (flagOf? (some value)).isSome

instance (v : Variable) (value : String) : Decidable (v.Accepts value) := by
  cases v <;> exact inferInstanceAs (Decidable (_ = true))

/-- The settings in which the variable has its say, if it has a value. -/
def put (v : Variable) (value : Option String) (s : Settings) : Settings :=
  match v with
  | budget => { s with budgetMs := (wordOf? value).getD s.budgetMs }
  | messageSize => { s with messageSize := (wordOf? value).getD s.messageSize }
  | bufferSize => { s with bufferSize := (wordOf? value).getD s.bufferSize }
  | maxSamples => { s with maxSamples := (wordOf? value).getD s.maxSamples }
  | tests => { s with tests := (testsOf? value).getD s.tests }
  | colour => { s with enableColour := (flagOf? value).getD s.enableColour }

theorem mem_all (v : Variable) : v ∈ all := by
  cases v <;> decide

@[simp]
theorem put_none (v : Variable) (s : Settings) : v.put none s = s := by
  cases v <;> rfl

/-- The budget of settings is what its variable says. -/
theorem budgetMs_put_all (read : Variable → Option String) (s : Settings) :
    (all.foldl (fun s v => v.put (read v) s) s).budgetMs =
      (wordOf? (read budget)).getD s.budgetMs := by
  simp only [all, List.foldl_cons, List.foldl_nil, put]

/-- A variable with a number changes one setting, whichever that is. -/
private theorem assign_word {v : Variable} {value : String} {s : Settings}
    {old : UInt64} (set : UInt64 → Settings)
    (haccepts : v.Accepts value = (wordOf? (some value)).isSome)
    (hassign : v.assign (v.readable value) s = (word (trimmed value)).map set)
    (hput : v.put (some value) s = set ((wordOf? (some value)).getD old)) :
    (v.Accepts value ∧ v.assign (v.readable value) s = .ok (v.put (some value) s)) ∨
      (¬ v.Accepts value ∧ ∃ m, v.assign (v.readable value) s = .error m) := by
  rw [haccepts, hassign, hput]
  cases hread : word (trimmed value) with
  | ok n =>
    have hsome : wordOf? (some value) = some n := by simp [wordOf?, hread, Except.toOption]
    rw [hsome]
    exact .inl ⟨rfl, rfl⟩
  | error m =>
    have hnone : wordOf? (some value) = none := by simp [wordOf?, hread, Except.toOption]
    rw [hnone]
    exact .inr ⟨nofun, m, rfl⟩

/-- A value is put into the settings, and a text that is none is refused. -/
theorem assign_readable (v : Variable) (value : String) (s : Settings) :
    (v.Accepts value ∧ v.assign (v.readable value) s = .ok (v.put (some value) s)) ∨
      (¬ v.Accepts value ∧ ∃ m, v.assign (v.readable value) s = .error m) := by
  cases v
  case tests =>
    cases hread : SubTest.readList value with
    | ok l =>
      have hsome : testsOf? (some value) = some l := by simp [testsOf?, hread, Except.toOption]
      refine .inl ⟨by simp [Accepts, hsome], ?_⟩
      simp only [assign, readable, put, hread, hsome]
      rfl
    | error item =>
      have hnone : testsOf? (some value) = none := by simp [testsOf?, hread, Except.toOption]
      refine .inr ⟨by simp [Accepts, hnone], .test item, ?_⟩
      simp only [assign, readable, hread]
      rfl
  case colour =>
    cases hread : flag? (trimmed value) with
    | some b =>
      have hsome : flagOf? (some value) = some b := by simp [flagOf?, hread]
      refine .inl ⟨by simp [Accepts, hsome], ?_⟩
      simp [assign, readable, put, hread, hsome]
    | none =>
      have hnone : flagOf? (some value) = none := by simp [flagOf?, hread]
      refine .inr ⟨by simp [Accepts, hnone], .flag, ?_⟩
      simp [assign, readable, hread]
  case budget => exact assign_word (fun n => { s with budgetMs := n }) rfl rfl rfl
  case messageSize => exact assign_word (fun n => { s with messageSize := n }) rfl rfl rfl
  case bufferSize => exact assign_word (fun n => { s with bufferSize := n }) rfl rfl rfl
  case maxSamples => exact assign_word (fun n => { s with maxSamples := n }) rfl rfl rfl

end Variable

namespace Settings

variable {env : Environment}

/-- Reading accepted variables goes on with all of them put into the settings. -/
theorem mergeEach_accepted {vs : List Variable} (ws : List Variable) (s : Settings)
    (h : ∀ v ∈ vs, ∀ value, env.read? v.name = some value → v.Accepts value) :
    mergeEach env (vs ++ ws) s =
      mergeEach env ws (vs.foldl (fun s v => v.put (env.read? v.name) s) s) := by
  induction vs generalizing s with
  | nil => rfl
  | cons v vs ih =>
    have hrest := fun u hu => h u (List.mem_cons_of_mem v hu)
    rw [List.cons_append, mergeEach, List.foldl_cons]
    cases hread : env.read? v.name with
    | none => simpa using ih s hrest
    | some value =>
      have haccepts := h v List.mem_cons_self value hread
      obtain ⟨-, hput⟩ | ⟨hrefused, -⟩ := v.assign_readable value s
      · simp only [hput]
        exact ih _ hrest
      · exact absurd haccepts hrefused

/-- The first refused variable ends the reading: the settings keep what they are. -/
theorem mergeEach_refused {v : Variable} {value : String} (ws : List Variable) (s : Settings)
    (hread : env.read? v.name = some value) (hrefused : ¬ v.Accepts value) :
    ∃ m, mergeEach env (v :: ws) s = (s, some (v.refusal value m)) := by
  obtain ⟨haccepts, -⟩ | ⟨-, m, hm⟩ := v.assign_readable value s
  · exact absurd haccepts hrefused
  · exact ⟨m, by simp [mergeEach, hread, hm]⟩

/-- What is read of accepted variables. -/
theorem merge_accepted (s : Settings)
    (h : ∀ (v : Variable) value, env.read? v.name = some value → v.Accepts value) :
    merge env s = (Variable.all.foldl (fun s v => v.put (env.read? v.name) s) s, none) := by
  have hall : mergeEach env (Variable.all ++ []) s = _ :=
    mergeEach_accepted [] s fun v _ => h v
  rw [List.append_nil] at hall
  exact hall

/-- Reading fails unless every variable that is set is accepted. -/
theorem mergeEach_none {vs : List Variable} {s s' : Settings}
    (h : mergeEach env vs s = (s', none)) :
    ∀ v ∈ vs, ∀ value, env.read? v.name = some value → v.Accepts value := by
  induction vs generalizing s with
  | nil => simp
  | cons v vs ih =>
    have hhead : ∀ value, env.read? v.name = some value → v.Accepts value := by
      intro value hread
      by_cases haccepts : v.Accepts value
      · exact haccepts
      · obtain ⟨m, hm⟩ := mergeEach_refused vs s hread haccepts
        rw [hm] at h
        cases h
    have hstep : mergeEach env ([v] ++ vs) s = _ := mergeEach_accepted vs s (by simpa using hhead)
    rw [List.singleton_append] at hstep
    rw [hstep] at h
    rintro u (_ | ⟨_, hu⟩)
    · exact hhead
    · exact ih h u hu

end Settings

end LoopGauge
