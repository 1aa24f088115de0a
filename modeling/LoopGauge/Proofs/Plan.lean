import LoopGauge.Plan
import LoopGauge.Proofs.Result.Slots
import LoopGauge.Proofs.Span
import Mathlib.Data.List.Dedup
import Mathlib.Data.List.Induction

/-!
# Plans and their shares

Which sub-tests a plan enables is told by which are listed, in whatever order and however often, and
by how each of them was switched last. The budget is shared evenly by those that are enabled, and
what is not used of it is less than a nanosecond for each.

## Main definitions

* `Plan.switchAll`: switches one sub-test after the other.
* `Plan.lastSwitch?`: how a sub-test was switched last.

## Main statements

* `Plan.isEnabled_switchAll`: the last switch decides.
* `Plan.length_enabled_eq`: a sub-test that is listed is enabled once, however often it is listed.
* `Plan.shares_of_enabled`: enabled sub-tests and their shares.
-/

namespace LoopGauge.Plan

variable {p : Plan} {t u : SubTest} {on : Bool} {slice : Span} {switches : List (SubTest × Bool)}
  {tests : List SubTest}

section Enabled

theorem mem_enabled : t ∈ p.enabled ↔ p.isEnabled t := by
  rw [enabled, List.mem_filter]
  exact and_iff_right t.mem_all

theorem length_enabled_le (p : Plan) : p.enabled.length ≤ 4 := List.length_filter_le _ _

theorem enabled_eq_of_contains (h : ∀ t, p.isEnabled t = tests.contains t) :
    p.enabled = SubTest.all.filter (· ∈ tests) :=
  List.filter_congr fun t _ => (h t).trans (List.contains_eq_mem t tests)

/-- Each sub-test is enabled once, however often it is listed. -/
theorem length_enabled_eq (h : ∀ t, p.isEnabled t = tests.contains t) :
    p.enabled.length = tests.dedup.length := by
  refine List.Perm.length_eq ((List.perm_ext_iff_of_nodup
    (SubTest.nodup_all.filter _) tests.nodup_dedup).2 fun t => ?_)
  have hlisted : t ∈ tests ↔ tests.contains t := List.contains_iff_mem.symm
  rw [List.mem_dedup, hlisted, ← h t]
  exact mem_enabled

/-- Switches one sub-test after the other. -/
def switchAll (p : Plan) (switches : List (SubTest × Bool)) : Plan :=
  switches.foldl (fun p s => p.setEnabled s.1 s.2) p

/-- How a sub-test was switched last, if it was. -/
def lastSwitch? (switches : List (SubTest × Bool)) (t : SubTest) : Option Bool :=
  (switches.findRev? (·.1 = t)).map Prod.snd

theorem switchAll_concat :
    p.switchAll (switches ++ [(t, on)]) = (p.switchAll switches).setEnabled t on :=
  List.foldl_concat ..

theorem lastSwitch?_concat :
    lastSwitch? (switches ++ [(t, on)]) u = if u = t then some on else lastSwitch? switches u := by
  rw [lastSwitch?, List.findRev?_eq_find?_reverse, List.reverse_append, List.reverse_singleton,
    List.singleton_append]
  by_cases h : u = t
  · rw [if_pos h, List.find?_cons_of_pos (by simpa using h.symm)]
    rfl
  · rw [if_neg h, List.find?_cons_of_neg (by simpa using Ne.symm h), lastSwitch?,
      List.findRev?_eq_find?_reverse]

/-- The last switch decides. -/
theorem isEnabled_switchAll (p : Plan) (switches : List (SubTest × Bool)) (t : SubTest) :
    (p.switchAll switches).isEnabled t = (lastSwitch? switches t).getD (p.isEnabled t) := by
  induction switches using List.reverseRecOn with
  | nil => rfl
  | append_singleton switches s ih =>
    obtain ⟨u, on⟩ := s
    rw [switchAll_concat, lastSwitch?_concat, isEnabled_setEnabled]
    split
    · rfl
    · exact ih

/-- Switching changes nothing else. -/
theorem switchAll_eq (p : Plan) (switches : List (SubTest × Bool)) :
    p.switchAll switches = { p with
      tcpLatency := (p.switchAll switches).tcpLatency
      udpLatency := (p.switchAll switches).udpLatency
      tcpThroughput := (p.switchAll switches).tcpThroughput
      udpThroughput := (p.switchAll switches).udpThroughput } := by
  induction switches using List.reverseRecOn with
  | nil => rfl
  | append_singleton switches s ih =>
    obtain ⟨t, on⟩ := s
    rw [switchAll_concat]
    cases t <;> conv_lhs => rw [ih]
    all_goals rfl

/-- A plan for listed sub-tests is one in which each sub-test was switched. -/
theorem withOnly_eq_switchAll (budget : Span) (tests : List SubTest) :
    withOnly budget tests =
      (withBudget budget).switchAll (SubTest.all.map fun t => (t, tests.contains t)) := by
  rw [withOnly, switchAll, List.foldl_map]

end Enabled

section Shares

theorem slice?_eq_none_iff : p.slice? = none ↔ p.enabled = [] := by
  rw [slice?, ← List.length_eq_zero_iff]
  split <;> simp_all

theorem slice?_eq_some_iff :
    p.slice? = some slice ↔ p.enabled ≠ [] ∧ slice = p.budget.divide p.enabled.length := by
  rw [slice?, ← List.length_pos_iff]
  cases p.enabled.length with
  | zero => simp
  | succ count => simp [eq_comm]

/-- What is shared is the budget, up to less than a nanosecond for each. -/
theorem nanos_slice (h : p.slice? = some slice) :
    p.enabled.length * slice.nanos ≤ p.budget.nanos ∧
      p.budget.nanos < p.enabled.length * (slice.nanos + 1) := by
  obtain ⟨hne, rfl⟩ := slice?_eq_some_iff.1 h
  exact ⟨Nat.mul_div_le .., Nat.lt_mul_div_succ _ (List.length_pos_iff.2 hne)⟩

/-- A share is reckoned in words, none of which is too small. -/
theorem words_slice (h : p.slice? = some slice) :
    p.budget.words.divide? (UInt32.ofNat p.enabled.length) = some slice.words := by
  obtain ⟨hne, rfl⟩ := slice?_eq_some_iff.1 h
  have hcount : (UInt32.ofNat p.enabled.length).toNat = p.enabled.length :=
    UInt32.toNat_ofNat_of_lt' (Nat.lt_of_le_of_lt p.length_enabled_le (by decide))
  have hpos : UInt32.ofNat p.enabled.length ≠ 0 := by
    intro hzero
    rw [hzero] at hcount
    exact hne (List.length_eq_zero_iff.1 hcount.symm)
  rw [Span.divide?_words _ hpos, hcount]

end Shares

/-- **Enabled sub-tests and their shares**. A plan enables the sub-tests that are listed, in the
order of execution, whatever the order of the list and however often it repeats one; after switches
it enables those that were last switched on, or were enabled and not switched, and is otherwise the
same. There is no share of the budget exactly if nothing is enabled. Otherwise the share of each is
that of the nanoseconds in the budget, rounded down, and it can be reckoned in words. -/
theorem shares_of_enabled (budget : Span) (tests : List SubTest) (s : Settings) (p : Plan)
    (switches : List (SubTest × Bool)) :
    (withOnly budget tests = (withBudget budget).switchAll
        (SubTest.all.map fun t => (t, tests.contains t)) ∧
      (withOnly budget tests).enabled = SubTest.all.filter (· ∈ tests) ∧
      (ofSettings { s with tests := tests }).enabled = SubTest.all.filter (· ∈ tests) ∧
      (SubTest.all.filter (· ∈ tests)).length = tests.dedup.length) ∧
    ((p.switchAll switches).enabled =
        SubTest.all.filter (fun t => (lastSwitch? switches t).getD (p.isEnabled t)) ∧
      p.switchAll switches = { p with
        tcpLatency := (p.switchAll switches).tcpLatency
        udpLatency := (p.switchAll switches).udpLatency
        tcpThroughput := (p.switchAll switches).tcpThroughput
        udpThroughput := (p.switchAll switches).udpThroughput }) ∧
    (p.slice? = none ↔ p.enabled = []) ∧
    ∀ slice, p.slice? = some slice →
      slice.nanos = p.budget.nanos / p.enabled.length ∧
      p.enabled.length * slice.nanos ≤ p.budget.nanos ∧
      p.budget.nanos < p.enabled.length * (slice.nanos + 1) ∧
      p.budget.words.divide? (UInt32.ofNat p.enabled.length) = some slice.words := by
  have honly : (withOnly budget tests).enabled = SubTest.all.filter (· ∈ tests) :=
    enabled_eq_of_contains (isEnabled_withOnly budget tests)
  refine ⟨⟨withOnly_eq_switchAll budget tests, honly,
    enabled_eq_of_contains (isEnabled_ofSettings { s with tests := tests }), ?_⟩,
    ⟨?_, switchAll_eq p switches⟩, slice?_eq_none_iff, fun slice hslice => ?_⟩
  · rw [← honly]
    exact length_enabled_eq (isEnabled_withOnly budget tests)
  · exact List.filter_congr fun t _ => isEnabled_switchAll p switches t
  · obtain ⟨hle, hlt⟩ := nanos_slice hslice
    obtain ⟨-, rfl⟩ := slice?_eq_some_iff.1 hslice
    exact ⟨rfl, hle, hlt, words_slice hslice⟩

/-- Three sub-tests are enabled, and two seconds and two nanoseconds are left over. -/
theorem shares_of_enabled_three :
    ∃ p slice, p = withOnly ⟨8000000005, by decide⟩ [.udpLatency, .tcpThroughput, .udpLatency,
        .tcpLatency] ∧
      p.enabled = [.tcpLatency, .udpLatency, .tcpThroughput] ∧
      (p.switchAll [(.tcpLatency, false), (.udpThroughput, true), (.tcpLatency, true),
        (.udpLatency, false)]).enabled = [.tcpLatency, .tcpThroughput, .udpThroughput] ∧
      p.slice? = some slice ∧ slice.nanos = 2666666668 ∧
      p.budget.words.divide? 3 = some slice.words := by
  let budget : Span := ⟨8000000005, by decide⟩
  let tests : List SubTest := [.udpLatency, .tcpThroughput, .udpLatency, .tcpLatency]
  obtain ⟨⟨-, honly, -⟩, ⟨hswitched, -⟩, -, hshares⟩ :=
    shares_of_enabled budget tests {} (withOnly budget tests)
      [(.tcpLatency, false), (.udpThroughput, true), (.tcpLatency, true), (.udpLatency, false)]
  have hslice : (withOnly budget tests).slice? = some (budget.divide 3) := rfl
  obtain ⟨hnanos, -, -, hwords⟩ := hshares _ hslice
  exact ⟨_, _, rfl, honly.trans (by decide), hswitched.trans (by decide), hslice,
    hnanos.trans (by decide), hwords⟩

end LoopGauge.Plan
