import LoopGauge.Proofs.EnvFile.Assignments
import LoopGauge.Proofs.Settings.Merge
import LoopGauge.Settings.Resolve

/-!
# Which setting wins

The settings of an invocation are resolved by priority: the command line, the environment of the
process, the first assignment of the env file, the default. Three flags only the command line has,
and the list of sub-tests and the use of colours have a rule of their own.

## Main definitions

* `Settings.byPriority`: the settings that the four places give.

## Main statements

* `resolve_eq_ok_iff`: when there are settings, and which.
-/

namespace LoopGauge

namespace Settings

/-- The settings that the command line and the texts of the variables give. -/
def byPriority (c : CommandLine) (text : Variable → Option String) : Settings where
  budgetMs := (c.budgetMs.or (wordOf? (text .budget))).getD Limits.defaultBudgetMillis
  messageSize := (c.messageSize.or (wordOf? (text .messageSize))).getD Limits.defaultMessageSize
  bufferSize := (c.bufferSize.or (wordOf? (text .bufferSize))).getD 0
  maxSamples := (c.maxSamples.or (wordOf? (text .maxSamples))).getD Limits.maxSamples
  tests := if c.tests.isEmpty then (testsOf? (text .tests)).getD SubTest.all else c.tests.eraseDups
  enableColour :=
    if c.noColour || c.json then false
    else if c.colour then true
    else (flagOf? (text .colour)).getD true
  json := c.json
  verbose := c.verbose
  debug := c.debug

private theorem foldl_distinct (tests seen : List SubTest) :
    tests.foldl (fun seen t => if seen.contains t then seen else seen ++ [t]) seen =
      seen ++ (tests.filter (!seen.contains ·)).eraseDups := by
  induction tests generalizing seen with
  | nil => simp
  | cons t tests ih =>
    rw [List.foldl_cons, List.filter_cons, ih]
    by_cases ht : t ∈ seen
    · simp [ht]
    · have hfilter : tests.filter (!(seen ++ [t]).contains ·) =
          (tests.filter (!seen.contains ·)).filter (!· == t) := by
        rw [List.filter_filter]
        apply List.filter_congr
        intro u _
        by_cases hu : u = t <;> simp [hu]
      have hnew : (!seen.contains t) = true := by simpa using ht
      rw [if_neg (by simpa using ht), if_pos hnew, hfilter, List.eraseDups_cons, List.append_assoc]
      rfl

/-- Dropping what was mentioned before keeps each first mention. -/
theorem distinct_eq_eraseDups (tests : List SubTest) : distinct tests = tests.eraseDups := by
  have h := foldl_distinct tests []
  have hall : tests.filter (!([] : List SubTest).contains ·) = tests :=
    List.filter_eq_self.2 fun _ _ => rfl
  rw [hall] at h
  exact h

/-- Settings read from the defaults on, with what the command line says, are those by priority. -/
theorem override_put (c : CommandLine) (text : Variable → Option String) :
    (Variable.all.foldl (fun s v => v.put (text v) s) ({} : Settings)).override c =
      byPriority c text := by
  have hflag : ∀ e : Bool, (c.colour || e) = if c.colour then true else e := by
    intro e
    cases c.colour <;> rfl
  simp only [Variable.all, List.foldl_cons, List.foldl_nil, Variable.put, override, byPriority,
    distinct_eq_eraseDups, Option.getD_or, hflag, Bool.or_eq_true]

/-- Settings are acceptable if their budget is in range. -/
theorem problem?_eq_none_iff (s : Settings) :
    s.problem? = none ↔ 1 ≤ s.budgetMs ∧ s.budgetMs ≤ Limits.maxBudgetMillis := by
  have hpos : 1 ≤ s.budgetMs ↔ s.budgetMs ≠ 0 := by
    rw [UInt64.le_iff_toNat_le, ne_eq, ← UInt64.toNat_inj]
    exact Nat.one_le_iff_ne_zero
  rw [problem?, hpos, ← UInt64.not_lt]
  split
  · next hzero => simp [hzero]
  · next hzero =>
    split
    · next hlarge => simp [hlarge]
    · next hlarge => simp [hzero, hlarge]

end Settings

open Settings

/-- What the variables say, once the env file is loaded. -/
theorem resolveIn_eq_ok_iff (c : CommandLine) (env : Environment) (s : Settings) :
    resolveIn c env = .ok s ↔
      (∀ (v : Variable) value, env.read? v.name = some value → v.Accepts value) ∧
        1 ≤ s.budgetMs ∧ s.budgetMs ≤ Limits.maxBudgetMillis ∧
        s = byPriority c fun v => env.read? v.name := by
  constructor
  · intro h
    unfold resolveIn at h
    split at h
    · cases h
    -- Reading has come to an end, so every variable was accepted and all of them are put.
    · next s₀ hmerge =>
      have haccepts : ∀ (v : Variable) value, env.read? v.name = some value → v.Accepts value :=
        fun v => mergeEach_none hmerge v v.mem_all
      rw [merge_accepted {} haccepts] at hmerge
      obtain rfl := congrArg Prod.fst hmerge
      dsimp only at h
      split at h
      · cases h
      · next hproblem =>
        obtain rfl := Except.ok.inj h
        obtain ⟨hpos, hle⟩ := (problem?_eq_none_iff _).1 hproblem
        exact ⟨haccepts, hpos, hle, override_put c fun v => env.read? v.name⟩
  · rintro ⟨haccepts, hpos, hle, rfl⟩
    have hproblem := (problem?_eq_none_iff (byPriority c fun v => env.read? v.name)).2 ⟨hpos, hle⟩
    rw [resolveIn, merge_accepted {} haccepts]
    dsimp only
    rw [override_put c fun v => env.read? v.name, hproblem]

/-- What loading the env file and resolving settings in the environment come to. -/
theorem settings_resolve (c : CommandLine) (env : Environment) (file : FileState) :
    (resolve c env file).settings =
      match (EnvFile.load env file).2 with
      | some .unstorable => .error .crash
      | some f => .error (.fault (EnvFile.loadFault c.envPath f))
      | none => (resolveIn c (EnvFile.load env file).1).mapError .fault := by
  unfold resolve
  dsimp only
  split <;> simp_all

theorem mapError_eq_ok_iff {α ε δ : Type} {f : ε → δ} {r : Except ε α} {a : α} :
    r.mapError f = .ok a ↔ r = .ok a := by
  cases r with
  | error e => exact ⟨nofun, nofun⟩
  | ok b =>
    constructor
    · rintro ⟨⟩
      rfl
    · rintro ⟨⟩
      rfl

/-- **Settings by priority**: there are settings exactly if the env file loads, every variable that
is set then has an acceptable value and the budget is in range, and they are those of the command
line, else of the environment, else of the first assignment of the file, else the defaults. A value
that is not acceptable is a fault even where the command line has the last word. -/
theorem resolve_eq_ok_iff (c : CommandLine) (env : Environment) (file : FileState) (s : Settings) :
    let text (v : Variable) : Option String :=
      (env.read? v.name).or (EnvFile.firstValue? v.name (EnvFile.assignments env file))
    (resolve c env file).settings = .ok s ↔
      (EnvFile.load env file).2 = none ∧
        (∀ v value, text v = some value → v.Accepts value) ∧
        1 ≤ s.budgetMs ∧ s.budgetMs ≤ 600000 ∧
        s = byPriority c text := by
  intro text
  rw [settings_resolve]
  cases hload : (EnvFile.load env file).2 with
  | some failure => cases failure <;> simp
  | none =>
    have htext : ∀ v : Variable, (EnvFile.load env file).1.read? v.name = text v :=
      fun v => EnvFile.read?_load hload v.name
    dsimp only
    rw [mapError_eq_ok_iff, resolveIn_eq_ok_iff]
    simp only [htext, true_and]
    exact Iff.rfl

end LoopGauge
