import LoopGauge.Proofs.Result.Slots
import Mathlib.Data.Set.Card

/-!
# The latest reports

Reports are put in one after the other, for any sub-tests and of any kinds. A slot then holds the
report that was put in last among those of its own kind, and all that is counted is counted by what
the slots hold.

## Main definitions

* `BenchResult.latest?`: the report for a sub-test that was put in last, if there is one.

## Main statements

* `BenchResult.get_setAll`: what a slot holds.
* `BenchResult.slots_hold_latest`: slots and counts after any reports.
-/

namespace LoopGauge.BenchResult

variable {b : BenchResult} {t u : SubTest} {r : Report} {entries : List (SubTest × Report)}

/-- The reports for a sub-test, without those of the wrong kind. -/
def fitting (t : SubTest) (entries : List (SubTest × Report)) : List Report :=
  (entries.filter fun e => e.1 = t && e.2.fits t).map Prod.snd

/-- The report for a sub-test that was put in last, if there is one of its kind. -/
def latest? (t : SubTest) (entries : List (SubTest × Report)) : Option Report :=
  (fitting t entries).getLast?

theorem latest?_concat :
    latest? t (entries ++ [(u, r)]) = if u = t ∧ r.fits t then some r else latest? t entries := by
  rw [latest?, fitting, List.filter_append, List.map_append]
  by_cases h : u = t ∧ r.fits t
  · rw [if_pos h, List.filter_cons_of_pos (by simpa using h)]
    exact List.getLast?_concat
  · rw [if_neg h, List.filter_cons_of_neg (by simpa using h), List.filter_nil, List.map_nil,
      List.append_nil]
    rfl

theorem set_of_not_fits (h : ¬r.fits t) : b.set t r = b := by
  cases t <;> cases r <;> first | rfl | exact absurd rfl h

theorem get_set : (b.set t r).get u = if t = u ∧ r.fits u then r else b.get u := by
  by_cases htu : t = u
  · subst htu
    by_cases hfits : r.fits t
    · rw [if_pos ⟨rfl, hfits⟩, get_set_self hfits]
    · rw [if_neg fun h => hfits h.2, set_of_not_fits hfits]
  · rw [if_neg fun h => htu h.1, get_set_of_ne (Ne.symm htu)]

theorem setAll_concat : b.setAll (entries ++ [(t, r)]) = (b.setAll entries).set t r :=
  List.foldl_concat ..

/-- A slot holds the latest report for it, or what it held before. -/
theorem get_setAll (b : BenchResult) (entries : List (SubTest × Report)) (t : SubTest) :
    (b.setAll entries).get t = (latest? t entries).getD (b.get t) := by
  induction entries using List.reverseRecOn with
  | nil => rfl
  | append_singleton entries e ih =>
    obtain ⟨u, r⟩ := e
    rw [setAll_concat, get_set, latest?_concat]
    split
    · rfl
    · exact ih

theorem successfulCount_eq_ncard : b.successfulCount = {t | (b.get t).success}.ncard := by
  have hset : {t | (b.get t).success} = ↑(SubTest.all.filter b.successOf).toFinset := by
    ext t
    simp [SubTest.mem_all, successOf_eq]
  rw [hset, Set.ncard_coe_finset, List.toFinset_card_of_nodup (SubTest.nodup_all.filter _),
    successfulCount, List.countP_eq_length_filter]

theorem anySuccess_iff_pos : b.anySuccess ↔ 0 < b.successfulCount := by
  rw [anySuccess, List.any_eq_true, successfulCount, List.countP_pos_iff]

theorem allSuccess_iff_four : b.allSuccess ↔ b.successfulCount = 4 := by
  rw [allSuccess, List.all_eq_true]
  exact List.countP_eq_length.symm

theorem allSuccessOf_iff {tests : List SubTest} :
    b.allSuccessOf tests ↔ tests ≠ [] ∧ ∀ t ∈ tests, (b.get t).success := by
  rw [allSuccessOf, Bool.and_eq_true, List.all_eq_true, Bool.not_eq_true',
    List.isEmpty_eq_false_iff]
  simp only [successOf_eq]

/-- **Slots hold the latest report of their kind.** Whatever reports are put into a new result, a
slot holds the last one that fits it, or none if there is no such; a report that does not fit
changes nothing, and none changes the slot of another sub-test. What is said of successes is said
of the reports in the slots. -/
theorem slots_hold_latest (entries : List (SubTest × Report)) :
    let b := setAll {} entries
    (∀ t, b.get t = (latest? t entries).getD (get {} t)) ∧
      (∀ t r, ¬r.fits t → b.set t r = b) ∧
      (∀ t r u, u ≠ t → (b.set t r).get u = b.get u) ∧
      (∀ t, b.successOf t = (b.get t).success) ∧
      b.successfulCount = {t | (b.get t).success}.ncard ∧
      (b.anySuccess ↔ 0 < b.successfulCount) ∧
      (b.allSuccess ↔ b.successfulCount = 4) ∧
      ∀ tests, b.allSuccessOf tests ↔ tests ≠ [] ∧ ∀ t ∈ tests, (b.get t).success := by
  refine ⟨get_setAll {} entries, fun t r => set_of_not_fits, fun t r u => get_set_of_ne,
    successOf_eq _, successfulCount_eq_ncard, anySuccess_iff_pos, allSuccess_iff_four,
    fun tests => allSuccessOf_iff⟩

/-- A report of the wrong kind comes between two that fit. -/
theorem slots_hold_latest_mixed :
    ∃ b, b = setAll {}
        [(.udpLatency, .latency { success := true }),
          (.udpLatency, .throughput { success := true }),
          (.tcpThroughput, .latency { success := true }),
          (.udpThroughput, .throughput { bytesSent := 1 }),
          (.udpThroughput, .throughput { bytesSent := 2, success := true })] ∧
      b.get .udpLatency = .latency { success := true } ∧
      b.get .tcpThroughput = .throughput {} ∧
      b.get .udpThroughput = .throughput { bytesSent := 2, success := true } ∧
      b.set .tcpThroughput (.latency {}) = b ∧
      b.allSuccessOf [.udpLatency, .udpThroughput] := by
  obtain ⟨hget, hset, -, -, -, -, -, hall⟩ := slots_hold_latest
    [(.udpLatency, .latency { success := true }),
      (.udpLatency, .throughput { success := true }),
      (.tcpThroughput, .latency { success := true }),
      (.udpThroughput, .throughput { bytesSent := 1 }),
      (.udpThroughput, .throughput { bytesSent := 2, success := true })]
  refine ⟨_, rfl, hget _, hget _, hget _, hset _ _ (by decide), (hall _).2 ⟨nofun, ?_⟩⟩
  intro t ht
  rw [hget]
  obtain rfl | rfl : t = .udpLatency ∨ t = .udpThroughput := by simpa using ht
  · rfl
  · rfl

end LoopGauge.BenchResult
