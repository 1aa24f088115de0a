import LoopGauge.Proofs.Settings.Merge

/-!
# What a refused variable leaves behind

The variables of an environment are read one after the other, and each changes a setting of its own.
The first one that is refused ends the reading: what was read before it stays in the settings, and
it changes nothing itself, nor does any variable after it.

## Main definitions

* `Settings.get`: the setting of a variable.
* `Variable.meaning?`: the setting that a value stands for.

## Main statements

* `Settings.merge_until_refusal`: when reading fails, of what, and the settings after it.
-/

namespace LoopGauge

/-- What a variable sets. -/
inductive Setting where
  | word (n : UInt64)
  | tests (tests : List SubTest)
  | flag (b : Bool)
deriving DecidableEq, Repr

def Settings.get (s : Settings) : Variable → Setting
  | .budget => .word s.budgetMs
  | .messageSize => .word s.messageSize
  | .bufferSize => .word s.bufferSize
  | .maxSamples => .word s.maxSamples
  | .tests => .tests s.tests
  | .colour => .flag s.enableColour

namespace Variable

/-- The setting that a value stands for, if it stands for one. -/
def meaning? (v : Variable) (value : String) : Option Setting :=
  match v with
  | budget | messageSize | bufferSize | maxSamples => (wordOf? (some value)).map .word
  | tests => (testsOf? (some value)).map .tests
  | colour => (flagOf? (some value)).map .flag

variable {u v : Variable} {value : String} {s : Settings}

theorem accepts_iff : v.Accepts value ↔ v.meaning? value ≠ none := by
  rw [← Option.isSome_iff_ne_none]
  cases v <;> simp [Accepts, meaning?]

theorem nodup_all : all.Nodup := by decide

theorem get_put (text : Option String) :
    (v.put text s).get u = if u = v then (text.bind v.meaning?).getD (s.get u) else s.get u := by
  split
  next h =>
    subst h
    cases text with
    | none => simp
    | some value =>
      rw [Option.bind_some]
      cases u
      case tests =>
        simp only [put, Settings.get, meaning?]
        cases testsOf? (some value) <;> rfl
      case colour =>
        simp only [put, Settings.get, meaning?]
        cases flagOf? (some value) <;> rfl
      all_goals
        simp only [put, Settings.get, meaning?]
        cases wordOf? (some value) <;> rfl
  next h => cases u <;> cases v <;> first | rfl | exact absurd rfl h

theorem flags_put (v : Variable) (text : Option String) (s : Settings) :
    (v.put text s).json = s.json ∧ (v.put text s).verbose = s.verbose ∧
      (v.put text s).debug = s.debug := by
  cases v <;> exact ⟨rfl, rfl, rfl⟩

end Variable

namespace Settings

variable {env : Environment} {vs : List Variable} {u v : Variable} {value : String}
  {s : Settings}

/-- Variables that are put into the settings change their own settings, and no others. -/
theorem get_foldl_put (read : Variable → Option String) :
    (vs.foldl (fun s v => v.put (read v) s) s).get u =
      if u ∈ vs then ((read u).bind u.meaning?).getD (s.get u) else s.get u := by
  induction vs generalizing s with
  | nil => rfl
  | cons v vs ih =>
    rw [List.foldl_cons, ih, Variable.get_put]
    by_cases hv : u = v
    · subst hv
      -- A variable that is put twice has the same say both times.
      cases (read u).bind u.meaning? <;> simp
    · simp [hv]

theorem flags_foldl_put (read : Variable → Option String) (vs : List Variable) (s : Settings) :
    let s' := vs.foldl (fun s v => v.put (read v) s) s
    s'.json = s.json ∧ s'.verbose = s.verbose ∧ s'.debug = s.debug := by
  induction vs generalizing s with
  | nil => exact ⟨rfl, rfl, rfl⟩
  | cons v vs ih =>
    obtain ⟨hjson, hverbose, hdebug⟩ := ih (v.put (read v) s)
    obtain ⟨hjson', hverbose', hdebug'⟩ := v.flags_put (read v) s
    exact ⟨hjson.trans hjson', hverbose.trans hverbose', hdebug.trans hdebug'⟩

theorem get_of_cut {before after : List Variable} (hall : Variable.all = before ++ v :: after)
    (read : Variable → Option String) (s : Settings) :
    let s' := before.foldl (fun s u => u.put (read u) s) s
    (∀ u ∈ before, s'.get u = ((read u).bind u.meaning?).getD (s.get u)) ∧
      ∀ u ∈ v :: after, s'.get u = s.get u := by
  intro s'
  have hnodup := hall ▸ Variable.nodup_all
  refine ⟨fun u hu => ?_, fun u hu => ?_⟩
  · rw [get_foldl_put, if_pos hu]
  · have hnot : u ∉ before := fun hmem => (List.nodup_append.1 hnodup).2.2 u hmem u hu rfl
    rw [get_foldl_put, if_neg hnot]

/-- The variable is set to a text that is none of its values. -/
def Refused (env : Environment) (v : Variable) : Prop :=
  ∃ value, env.read? v.name = some value ∧ v.meaning? value = none

theorem accepts_of_not_refused (h : ¬Refused env v) (hread : env.read? v.name = some value) :
    v.Accepts value :=
  Variable.accepts_iff.2 fun hnone => h ⟨value, hread, hnone⟩

/-- If a variable is refused, one of them is the first. -/
theorem exists_first_refused (h : ∃ v, Refused env v) :
    ∃ before v after, Variable.all = before ++ v :: after ∧ Refused env v ∧
      ∀ u ∈ before, ¬Refused env u := by
  classical
  obtain ⟨v, hv⟩ := h
  have hsome : (Variable.all.find? fun v => decide (Refused env v)).isSome :=
    List.find?_isSome.2 ⟨v, v.mem_all, by simpa using hv⟩
  obtain ⟨first, hfirst⟩ := Option.isSome_iff_exists.1 hsome
  obtain ⟨hrefused, before, after, hall, hbefore⟩ := List.find?_eq_some_iff_append.1 hfirst
  exact ⟨before, first, after, hall, by simpa using hrefused, by simpa using hbefore⟩

/-- Reading ends at the first refused variable, with what was read before it. -/
theorem merge_refused {before after : List Variable} (hall : Variable.all = before ++ v :: after)
    (hbefore : ∀ u ∈ before, ¬Refused env u) (hread : env.read? v.name = some value)
    (hmeaning : v.meaning? value = none) (s : Settings) :
    let s' := before.foldl (fun s u => u.put (env.read? u.name) s) s
    ∃ m, v.assign (v.readable value) s' = .error m ∧
      merge env s = (s', some (v.refusal value m)) := by
  intro s'
  have hrefused : ¬v.Accepts value := fun haccepts => Variable.accepts_iff.1 haccepts hmeaning
  obtain ⟨haccepts, -⟩ | ⟨-, m, hm⟩ := v.assign_readable value s'
  · exact absurd haccepts hrefused
  · refine ⟨m, hm, ?_⟩
    rw [merge, hall, mergeEach_accepted (v :: after) s fun u hu value hread =>
      accepts_of_not_refused (hbefore u hu) hread]
    simp only [mergeEach, hread]
    rw [hm]

theorem merge_of_forall_not_refused (h : ∀ v, ¬Refused env v) (s : Settings) :
    merge env s = (Variable.all.foldl (fun s v => v.put (env.read? v.name) s) s, none) :=
  merge_accepted s fun v _ hread => accepts_of_not_refused (h v) hread

/-- **The first refused variable ends the reading.** Reading the variables of an environment in
their order fails exactly if one that is set is refused. The fault is one of the configuration that
names the first of these and quotes its value as it stands; the settings of the variables before it
are what those say, if they are set, and all others are what they were. Where reading does not
fail every variable that is set has its say. Nothing else changes in either case. -/
theorem merge_until_refusal (env : Environment) (s : Settings) :
    let s' := (merge env s).1
    let fault? := (merge env s).2
    ((∃ f, fault? = some f) ↔
      ∃ v value, env.read? (Variable.name v) = some value ∧ v.meaning? value = none) ∧
    (∀ f, fault? = some f → ∃ before v after value m,
      [Variable.budget, .messageSize, .bufferSize, .maxSamples, .tests, .colour] =
        before ++ v :: after ∧
      (∀ u ∈ before, ∀ text, env.read? u.name = some text → u.meaning? text ≠ none) ∧
      env.read? v.name = some value ∧ v.meaning? value = none ∧
      v.assign (v.readable value) s' = .error m ∧
      f = ⟨.configuration, "Invalid " ++ v.name ++ " value '" ++ value ++ "': " ++ m.message⟩ ∧
      (∀ u ∈ before, s'.get u = ((env.read? u.name).bind u.meaning?).getD (s.get u)) ∧
      ∀ u ∈ v :: after, s'.get u = s.get u) ∧
    (fault? = none → ∀ v, s'.get v = ((env.read? v.name).bind v.meaning?).getD (s.get v)) ∧
    s'.json = s.json ∧ s'.verbose = s.verbose ∧ s'.debug = s.debug := by
  intro s' fault?
  by_cases h : ∃ v, Refused env v
  · obtain ⟨before, v, after, hall, hrefused, hbefore⟩ := exists_first_refused h
    obtain ⟨value, hread, hmeaning⟩ := hrefused
    obtain ⟨m, hassign, hmerge⟩ := merge_refused hall hbefore hread hmeaning s
    have hs' : s' = before.foldl (fun s u => u.put (env.read? u.name) s) s :=
      congrArg Prod.fst hmerge
    have hfault : fault? = some (v.refusal value m) := congrArg Prod.snd hmerge
    have hget := get_of_cut hall (fun u => env.read? u.name) s
    refine ⟨iff_of_true ⟨_, hfault⟩ h, fun f hf => ?_, fun hnone => ?_, ?_⟩
    · obtain rfl := Option.some.inj (hf.symm.trans hfault)
      rw [← hs'] at hget hassign
      refine ⟨before, v, after, value, m, hall, ?_, hread, hmeaning, hassign, rfl, hget⟩
      exact fun u hu text htext hnone => hbefore u hu ⟨text, htext, hnone⟩
    · rw [hfault] at hnone
      cases hnone
    · rw [hs']
      exact flags_foldl_put _ before s
  · have hmerge := merge_of_forall_not_refused (not_exists.1 h) s
    have hs' : s' = Variable.all.foldl (fun s v => v.put (env.read? v.name) s) s :=
      congrArg Prod.fst hmerge
    have hfault : fault? = none := congrArg Prod.snd hmerge
    refine ⟨iff_of_false ?_ h, fun f hf => ?_, fun _ v => ?_, ?_⟩
    · rintro ⟨f, hf⟩
      rw [hfault] at hf
      cases hf
    · rw [hfault] at hf
      cases hf
    · rw [hs', get_foldl_put, if_pos v.mem_all]
    · rw [hs']
      exact flags_foldl_put _ Variable.all s

-- The budget is read, the cap is refused, and the use of colours is not looked at.
example :
    merge ⟨[("ENABLE_COLOR", .text "false"), ("LOOPBACK_MAX_SAMPLES", .text " lots "),
      ("LOOPBACK_BUDGET_MS", .text " 750 ")]⟩ {} =
      ({ budgetMs := 750 }, some ⟨.configuration,
        "Invalid LOOPBACK_MAX_SAMPLES value ' lots ': invalid digit found in string"⟩) := by
  decide +kernel

end Settings

end LoopGauge
