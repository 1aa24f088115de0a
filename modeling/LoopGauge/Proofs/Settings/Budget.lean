import LoopGauge.CommandLine.Reader
import LoopGauge.Proofs.Number.Numeral
import LoopGauge.Proofs.Settings.Warnings

/-!
# Budgets from the command line and from the environment

A budget on the command line is made of digits alone. In the environment there may be blanks around
it and a plus sign in front of it, and its range is looked at only when all variables are read. Both
accept the same budgets.

## Main statements

* `CommandLine.readBudget_eq_ok_iff`: what the command line accepts.
* `wordOf?_eq_some_iff`: what the environment accepts before the range counts.
* `budgets_agree`: both together.
-/

namespace LoopGauge

open Number Number.Numeral Settings Text

variable {s : String} {n : UInt64} {cs : List Char}

theorem Settings.problem?_eq_none_iff_toNat (s : Settings) :
    s.problem? = none ↔ 1 ≤ s.budgetMs.toNat ∧ s.budgetMs.toNat ≤ 600000 := by
  rw [problem?_eq_none_iff, UInt64.le_iff_toNat_le, UInt64.le_iff_toNat_le]
  rfl

namespace CommandLine

/-- No mark is made of digits, so what is made of digits has none. -/
theorem not_marked_of_isDigit (h : ∀ c ∈ cs, c.isDigit) : ¬budgetMarks.any (·.isPrefixOf cs) := by
  have hmarks : budgetMarks.all (·.any (!·.isDigit)) := by decide
  rw [List.any_eq_true]
  rintro ⟨mark, hmark, hstart⟩
  obtain ⟨c, hc, hdigit⟩ := List.any_eq_true.1 (List.all_eq_true.1 hmarks mark hmark)
  rw [h c ((List.isPrefixOf_iff_prefix.1 hstart).subset hc)] at hdigit
  cases hdigit

/-- What is not marked has no sign. -/
theorem unsigned_of_not_marked (h : ¬budgetMarks.any (·.isPrefixOf cs)) : unsigned cs = cs := by
  fun_cases unsigned cs with
  | case1 cs =>
    refine absurd (List.any_eq_true.2 ⟨['+'], by decide, ?_⟩) h
    exact List.isPrefixOf_iff_prefix.2 (List.prefix_append ['+'] cs)
  | case2 cs hplain => rfl

/-- The range of a budget is the same for the command line and for settings. -/
theorem readBudget_of_not_marked (h : ¬budgetMarks.any (·.isPrefixOf s.toList)) :
    readBudget s = .ok n ↔
      word? s.toList = .ok n ∧ ({ budgetMs := n } : Settings).problem? = none := by
  rw [readBudget, if_neg h]
  cases hread : word? s.toList with
  | error problem => exact iff_of_false nofun fun h => nomatch h.1
  | ok m =>
    by_cases hzero : m = 0
    · refine iff_of_false (by simp [hzero]) fun ⟨hm, hrange⟩ => ?_
      obtain rfl := Except.ok.inj hm
      simp [problem?, hzero] at hrange
    · by_cases hlarge : Limits.maxBudgetMillis < m
      · refine iff_of_false (by simp [hzero, hlarge]) fun ⟨hm, hrange⟩ => ?_
        obtain rfl := Except.ok.inj hm
        simp [problem?, hzero, hlarge] at hrange
      · have hrange : ({ budgetMs := m } : Settings).problem? = none := by
          rw [problem?, if_neg hzero, if_neg hlarge]
        dsimp only
        rw [if_neg hzero, if_neg hlarge]
        constructor
        · rintro ⟨⟩
          exact ⟨rfl, hrange⟩
        · rintro ⟨⟨⟩, -⟩
          rfl

/-- The command line accepts numerals of digits alone, with any number of zeros in front, whose
value is in range. -/
theorem readBudget_eq_ok_iff :
    readBudget s = .ok n ↔ s.toList ≠ [] ∧ (∀ c ∈ s.toList, c.isDigit) ∧
      Nat.ofDigitChars 10 s.toList 0 = n.toNat ∧ 1 ≤ n.toNat ∧ n.toNat ≤ 600000 := by
  by_cases hmarked : budgetMarks.any (·.isPrefixOf s.toList)
  · rw [readBudget, if_pos hmarked]
    exact iff_of_false nofun fun h => not_marked_of_isDigit h.2.1 hmarked
  · rw [readBudget_of_not_marked hmarked, word?_eq_ok_iff, unsigned_of_not_marked hmarked,
      problem?_eq_none_iff_toNat, and_assoc, and_assoc]

end CommandLine

/-- A value is a number if it is a numeral without the blanks around it. -/
theorem wordOf?_eq_some_iff : wordOf? (some s) = some n ↔ word? (trim s.toList) = .ok n := by
  rw [wordOf?, Option.bind_some, Variable.word, trimmed, String.toList_ofList]
  cases word? (trim s.toList) <;> simp [Except.mapError, Except.toOption]

/-- A budget of the environment is accepted if its value is a number in range. -/
theorem merge_budget_iff {env : Environment} (hread : env.read? Variable.budget.name = some s)
    (hothers : ∀ v : Variable, v ≠ .budget → ∀ value, env.read? v.name = some value →
      v.Accepts value) :
    (∃ settings, Settings.merge env {} = (settings, none) ∧ settings.problem? = none ∧
        settings.budgetMs = n) ↔
      word? (trim s.toList) = .ok n ∧ ({ budgetMs := n } : Settings).problem? = none := by
  have hbudget := Variable.budgetMs_put_all (fun v => env.read? v.name) {}
  dsimp only at hbudget
  rw [hread] at hbudget
  rw [← wordOf?_eq_some_iff]
  constructor
  · rintro ⟨settings, hmerge, hrange, rfl⟩
    have haccepts : ∀ (v : Variable) value, env.read? v.name = some value → v.Accepts value :=
      fun v => mergeEach_none hmerge v v.mem_all
    obtain ⟨n, hn⟩ := Option.isSome_iff_exists.1 (haccepts .budget s hread)
    rw [merge_accepted {} haccepts] at hmerge
    obtain rfl := congrArg Prod.fst hmerge
    rw [hn] at hbudget
    rw [problem?_eq_none_iff, hbudget] at hrange
    rw [hbudget]
    exact ⟨hn, (problem?_eq_none_iff _).2 hrange⟩
  · rintro ⟨hn, hrange⟩
    have haccepts : ∀ (v : Variable) value, env.read? v.name = some value → v.Accepts value := by
      intro v value hvalue
      by_cases hv : v = .budget
      · subst hv
        obtain rfl : s = value := Option.some.inj (hread.symm.trans hvalue)
        exact Option.isSome_iff_exists.2 ⟨n, hn⟩
      · exact hothers v hv value hvalue
    rw [hn] at hbudget
    refine ⟨_, merge_accepted {} haccepts, ?_, hbudget⟩
    rw [problem?_eq_none_iff, hbudget]
    exact (problem?_eq_none_iff _).1 hrange

/-- **Command line and environment accept the same budgets**. A budget on the command line is a text
of digits, with any number of zeros in front, whose value is in range. In an environment where
nothing is wrong with the other variables a budget is accepted, and is the one of the settings,
exactly if the command line accepts it without the blanks around it and without one plus sign. -/
theorem budgets_agree (s : String) (n : UInt64) :
    (CommandLine.readBudget s = .ok n ↔ s.toList ≠ [] ∧ (∀ c ∈ s.toList, c.isDigit) ∧
      Nat.ofDigitChars 10 s.toList 0 = n.toNat ∧ 1 ≤ n.toNat ∧ n.toNat ≤ 600000) ∧
    ∀ env : Environment, env.read? "LOOPBACK_BUDGET_MS" = some s →
      (∀ v : Variable, v ≠ .budget → ∀ value, env.read? v.name = some value → v.Accepts value) →
      ((∃ settings, Settings.merge env {} = (settings, none) ∧ settings.problem? = none ∧
          settings.budgetMs = n) ↔
        CommandLine.readBudget (String.ofList (unsigned (trim s.toList))) = .ok n) := by
  refine ⟨CommandLine.readBudget_eq_ok_iff, fun env hread hothers => ?_⟩
  rw [merge_budget_iff hread hothers, word?_eq_ok_iff, problem?_eq_none_iff_toNat,
    CommandLine.readBudget_eq_ok_iff, String.toList_ofList, and_assoc, and_assoc]

/-- A long way to write forty-two, among blanks of two kinds. -/
theorem budgets_agree_signed :
    let env := ({} : Environment).set "LOOPBACK_BUDGET_MS" "\u2003+000000000000000000000042\t"
    env.read? "LOOPBACK_BUDGET_MS" = some "\u2003+000000000000000000000042\t" ∧
      CommandLine.readBudget "000000000000000000000042" = .ok 42 ∧
      ∃ settings, Settings.merge env {} = (settings, none) ∧ settings.problem? = none ∧
        settings.budgetMs = 42 := by
  intro env
  have hread : env.read? "LOOPBACK_BUDGET_MS" = some "\u2003+000000000000000000000042\t" :=
    Environment.read?_set_self ..
  have hothers : ∀ v : Variable, v ≠ .budget → ∀ value, env.read? v.name = some value →
      v.Accepts value := by
    intro v hv value hvalue
    have hname : v.name ≠ "LOOPBACK_BUDGET_MS" := fun hname => hv (Variable.name_injective hname)
    rw [Environment.read?_set_of_ne _ _ hname] at hvalue
    cases hvalue
  obtain ⟨-, henv⟩ := budgets_agree "\u2003+000000000000000000000042\t" 42
  have htext : CommandLine.readBudget "000000000000000000000042" = .ok 42 := by decide +kernel
  exact ⟨hread, htext, (henv env hread hothers).2 htext⟩

end LoopGauge
