import LoopGauge.Proofs.Number.Order
import LoopGauge.Result.Latency
import Mathlib.Data.List.Perm.Basic

/-!
# The ordered sample

A comparison that is total and tells all elements apart leaves a list one order only, however it is
sorted. So what is computed from the ordered list does not depend on the order of arrival.

## Main definitions

* `Linear`: such a comparison.
* `Summary.blank`: the summary of no sample.

## Main statements

* `Linear.eq_ordered`: there is one ascending order of a list.
* `summary_of_arrivals`: figures do not depend on the order in which the samples arrived.
-/

namespace LoopGauge.Statistics

open Number

variable {α : Type} {le : α → α → Bool} {xs ys zs : List α}

/-- A comparison that orders all elements and tells them apart. -/
structure Linear (le : α → α → Bool) : Prop where
  trans : ∀ x y z, le x y → le y z → le x z
  total : ∀ x y, le x y ∨ le y x
  antisymm : ∀ x y, le x y → le y x → x = y

theorem linear_totalLe : Linear Binary64.totalLe where
  trans _ _ _ := Binary64.totalLe_trans
  total := Binary64.totalLe_total
  antisymm _ _ := Binary64.totalLe_antisymm

theorem ordered_perm (le : α → α → Bool) (xs : List α) : (ordered le xs).Perm xs :=
  List.mergeSort_perm xs le

theorem mem_ordered {x : α} : x ∈ ordered le xs ↔ x ∈ xs := (ordered_perm le xs).mem_iff

theorem ordered_ne_nil (h : xs ≠ []) : ordered le xs ≠ [] :=
  fun hnil => h (hnil ▸ ordered_perm le xs).symm.eq_nil

theorem Linear.pairwise_ordered (h : Linear le) (xs : List α) :
    (ordered le xs).Pairwise fun x y => le x y :=
  List.pairwise_mergeSort h.trans (fun x y => by simpa using h.total x y) xs

/-- Whatever way a list is put into ascending order, the outcome is the same. -/
theorem Linear.eq_ordered (h : Linear le) (hperm : zs.Perm xs)
    (hascending : zs.Pairwise fun x y => le x y) : zs = ordered le xs :=
  List.Perm.eq_of_pairwise (fun x y _ _ => h.antisymm x y) hascending (h.pairwise_ordered xs)
    (hperm.trans (ordered_perm le xs).symm)

theorem Linear.ordered_eq_of_perm (h : Linear le) (hperm : xs.Perm ys) :
    ordered le ys = ordered le xs :=
  h.eq_ordered ((ordered_perm le ys).trans hperm.symm) (h.pairwise_ordered ys)

/-- The summary of no sample. -/
def Summary.blank (zero : α) : Summary α :=
  ⟨zero, zero, zero, zero, zero, zero, zero, zero, zero, 0⟩

variable (A : Arithmetic α)

theorem summarise_nil : summarise A [] = Summary.blank (A.ofNat 0) := rfl

/-- No units are no units after rounding too. -/
theorem arithmetic_ofNat_zero : Binary64.arithmetic.ofNat 0 = .zero := by
  change Binary64.ofRatio false (0 * Binary64.unitsPerOne) 1 = .zero
  rw [Nat.zero_mul]
  rfl

theorem count_summarise (sorted : List α) : (summarise A sorted).count = sorted.length := by
  cases sorted <;> rfl

theorem success_summarise_iff (sorted : List α) : (summarise A sorted).success ↔ sorted ≠ [] := by
  rw [Summary.success, count_summarise, decide_eq_true_iff, List.length_pos_iff]

/-- The extremes of an ascending list are its first and its last element. -/
theorem extremes_summarise {sorted : List α} (h : sorted ≠ []) :
    sorted.head? = some (summarise A sorted).min ∧
      sorted.getLast? = some (summarise A sorted).max := by
  cases sorted with
  | nil => exact absurd rfl h
  | cons first rest => exact ⟨rfl, List.getLast?_eq_some_getLast h⟩

/-- **The order of arrival does not matter.** Samples that arrive in another order are the same
once they are ordered, bit for bit, and so are their figures, whatever the operations on doubles
are. The ordered list holds the same samples and ascends, and no other list does; its ends are the
extremes, its length is the count, and the figures count as a success if there is a sample. -/
theorem summary_of_arrivals (A : Arithmetic Binary64) {xs ys : List Binary64} (h : xs.Perm ys) :
    let sorted := ordered Binary64.totalLe xs
    let figures := summarise A sorted
    (ordered Binary64.totalLe ys = sorted ∧
      summarise A (ordered Binary64.totalLe ys) = figures ∧
      (∀ p, percentile? A (ordered Binary64.totalLe ys) p = percentile? A sorted p) ∧
      ∀ lost, LatencyResult.ofSamples ys lost = LatencyResult.ofSamples xs lost) ∧
    (sorted.Perm xs ∧ (sorted.Pairwise fun x y => x.totalLe y) ∧
      ∀ zs, zs.Perm xs → (zs.Pairwise fun x y => x.totalLe y) → zs = sorted) ∧
    figures.count = xs.length ∧
    (xs ≠ [] → sorted.head? = some figures.min ∧ sorted.getLast? = some figures.max ∧
      figures.success) ∧
    (xs = [] → figures = Summary.blank (A.ofNat 0) ∧ ¬figures.success) ∧
    Binary64.arithmetic.ofNat 0 = .zero := by
  intro sorted figures
  have hsame : ordered Binary64.totalLe ys = sorted := linear_totalLe.ordered_eq_of_perm h
  have hperm : sorted.Perm xs := ordered_perm _ xs
  refine ⟨⟨hsame, by rw [hsame], fun p => by rw [hsame], fun lost => ?_⟩,
    ⟨hperm, linear_totalLe.pairwise_ordered xs, fun zs => linear_totalLe.eq_ordered⟩,
    (count_summarise A sorted).trans hperm.length_eq, fun hne => ?_, fun hnil => ?_,
    arithmetic_ofNat_zero⟩
  · rw [LatencyResult.ofSamples, LatencyResult.ofSamples, ofSamples, ofSamples, hsame]
  · have hsorted : sorted ≠ [] := ordered_ne_nil hne
    obtain ⟨hfirst, hlast⟩ := extremes_summarise A hsorted
    exact ⟨hfirst, hlast, (success_summarise_iff A sorted).2 hsorted⟩
  · have hsorted : sorted = [] := (hnil ▸ hperm).eq_nil
    rw [success_summarise_iff]
    refine ⟨?_, not_not.2 hsorted⟩
    rw [show figures = summarise A sorted from rfl, hsorted, summarise_nil]

/-- A NaN, both zeros and an infinity, of which every order of arrival has the same figures. -/
theorem summary_of_arrivals_mixed :
    [Binary64.nan, .negZero, .infinity, .zero].Perm [.zero, .nan, .negZero, .infinity] ∧
      (ofSamples [.zero, .nan, .negZero, .infinity]).min = .negZero ∧
      ofSamples [.zero, .nan, .negZero, .infinity] =
        ofSamples [.nan, .negZero, .infinity, .zero] := by
  have hperm : [Binary64.nan, .negZero, .infinity, .zero].Perm
      [.zero, .nan, .negZero, .infinity] := by decide
  obtain ⟨⟨-, hfigures, -⟩, ⟨-, -, hone⟩, -, hends, -⟩ :=
    summary_of_arrivals Binary64.arithmetic hperm
  have hsorted := hone [.negZero, .zero, .infinity, .nan] (by decide) (by decide)
  have hfirst := (hends (by simp)).1
  refine ⟨hperm, (congrArg Summary.min hfigures).trans ?_, hfigures⟩
  exact (Option.some.inj ((congrArg List.head? hsorted).trans hfirst)).symm

end LoopGauge.Statistics
