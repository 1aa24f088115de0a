import LoopGauge.Result.Bench

/-!
# The slots of a result

A report that fits its sub-test is found in the slot of that sub-test and in no other. Reports that
are put in for different sub-tests are therefore all found again.

## Main definitions

* `BenchResult.setAll`: puts in one report after the other.

## Main statements

* `BenchResult.ext_get`: a result is what its slots hold.
* `BenchResult.setAll_eq_iff`: what a result is into which reports were put.
-/

namespace LoopGauge

namespace SubTest

theorem mem_all (t : SubTest) : t ∈ all := by cases t <;> decide

theorem nodup_all : all.Nodup := by decide

end SubTest

namespace BenchResult

variable {b c : BenchResult} {t u : SubTest} {r : Report} {entries : List (SubTest × Report)}

theorem successOf_eq (b : BenchResult) (t : SubTest) : b.successOf t = (b.get t).success := by
  cases t <;> rfl

theorem ext_get (h : ∀ t, b.get t = c.get t) : b = c := by
  have tcpLatency := Report.latency.inj (h .tcpLatency)
  have udpLatency := Report.latency.inj (h .udpLatency)
  have tcpThroughput := Report.throughput.inj (h .tcpThroughput)
  have udpThroughput := Report.throughput.inj (h .udpThroughput)
  cases b
  cases c
  simp_all

/-- A sub-test without a result has not succeeded. -/
theorem success_get_default (t : SubTest) : (get {} t).success = false := by
  cases t <;> rfl

theorem get_set_self (hfits : r.fits t) : (b.set t r).get t = r := by
  cases t <;> cases r <;> first | rfl | cases hfits

theorem get_set_of_ne (h : u ≠ t) : (b.set t r).get u = b.get u := by
  cases t <;> cases r <;> cases u <;> first | rfl | exact absurd rfl h

/-- Puts in one report after the other. -/
def setAll (b : BenchResult) (entries : List (SubTest × Report)) : BenchResult :=
  entries.foldl (fun b e => b.set e.1 e.2) b

@[simp]
theorem setAll_cons : b.setAll ((t, r) :: entries) = (b.set t r).setAll entries := rfl

theorem get_setAll_of_not_mem (h : t ∉ entries.map Prod.fst) :
    (b.setAll entries).get t = b.get t := by
  induction entries generalizing b with
  | nil => rfl
  | cons e entries ih =>
    obtain ⟨u, r⟩ := e
    rw [List.map_cons, List.mem_cons, not_or] at h
    obtain ⟨hne, hrest⟩ := h
    rw [setAll_cons, ih hrest, get_set_of_ne hne]

theorem get_setAll_of_mem (hnodup : (entries.map Prod.fst).Nodup)
    (hfits : ∀ u r, (u, r) ∈ entries → r.fits u) (hmem : (t, r) ∈ entries) :
    (b.setAll entries).get t = r := by
  induction entries generalizing b with
  | nil => cases hmem
  | cons e entries ih =>
    obtain ⟨u, r'⟩ := e
    rw [List.map_cons, List.nodup_cons] at hnodup
    obtain ⟨hfresh, hnodup⟩ := hnodup
    rw [setAll_cons]
    obtain heq | hmem := List.mem_cons.1 hmem
    · obtain ⟨rfl, rfl⟩ := Prod.mk.inj heq
      rw [get_setAll_of_not_mem hfresh, get_set_self (hfits t r List.mem_cons_self)]
    · exact ih hnodup (fun u r h => hfits u r (List.mem_cons_of_mem _ h)) hmem

/-- Every report that was put in is found again, and the other slots are as before. -/
theorem setAll_eq_iff (hnodup : (entries.map Prod.fst).Nodup)
    (hfits : ∀ u r, (u, r) ∈ entries → r.fits u) :
    b.setAll entries = c ↔
      entries = (entries.map Prod.fst).map (fun t => (t, c.get t)) ∧
        ∀ t, t ∉ entries.map Prod.fst → c.get t = b.get t := by
  -- No slot is set twice, so an entry is what is found in its slot.
  have hslots : ∀ e ∈ entries, (e.1, (b.setAll entries).get e.1) = e := by
    intro e he
    rw [get_setAll_of_mem hnodup hfits he]
  constructor
  · rintro rfl
    refine ⟨?_, fun t => get_setAll_of_not_mem⟩
    rw [List.map_map]
    exact (List.map_id entries).symm.trans (List.map_congr_left fun e he => (hslots e he).symm)
  · rintro ⟨hentries, hothers⟩
    refine ext_get fun t => ?_
    by_cases ht : t ∈ entries.map Prod.fst
    · refine get_setAll_of_mem hnodup hfits ?_
      rw [hentries]
      exact List.mem_map_of_mem ht
    · rw [get_setAll_of_not_mem ht, hothers t ht]

theorem anySuccess_iff : b.anySuccess ↔ ∃ t, (b.get t).success := by
  rw [anySuccess, List.any_eq_true]
  constructor
  · rintro ⟨t, -, ht⟩
    exact ⟨t, b.successOf_eq t ▸ ht⟩
  · rintro ⟨t, ht⟩
    exact ⟨t, t.mem_all, b.successOf_eq t ▸ ht⟩

/-- All successes are counted by whoever counts those of the sub-tests outside of which there are
none. -/
theorem successfulCount_eq {tests : SubTest → Bool} (h : ∀ t, (b.get t).success → tests t) :
    b.successfulCount = (SubTest.all.filter tests).countP fun t => (b.get t).success := by
  rw [successfulCount, List.countP_filter]
  refine List.countP_congr fun t _ => ?_
  rw [successOf_eq]
  constructor
  · intro ht
    rw [Bool.and_eq_true]
    exact ⟨ht, h t ht⟩
  · intro ht
    rw [Bool.and_eq_true] at ht
    exact ht.1

end BenchResult

end LoopGauge
