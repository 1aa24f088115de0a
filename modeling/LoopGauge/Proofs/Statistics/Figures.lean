import LoopGauge.Proofs.Statistics.Ordered
import LoopGauge.Proofs.Statistics.Percentile
import Mathlib.Algebra.Order.BigOperators.Group.List
import Mathlib.Tactic.Positivity

/-!
# Figures in exact arithmetic

Computed without rounding, the figures of a sample keep the order of what they stand for, and the
spread is zero only if there is none.

## Main definitions

* `Summary.InOrder`: that order.
* `meanSquaredDeviation`: the spread of a sample.

## Main statements

* `inOrder_summarise`: the figures of an ascending list are in order.
* `meanSquaredDeviation_mean_eq_zero_iff`: when there is no spread.
* `percentiles_in_order`: percentiles and figures in exact arithmetic.
-/

namespace LoopGauge.Statistics

open Number

/-- The order of what the figures of a sample stand for. -/
structure Summary.InOrder (r : Summary ℚ) : Prop where
  min_le_p50 : r.min ≤ r.p50
  p50_le_p90 : r.p50 ≤ r.p90
  p90_le_p95 : r.p90 ≤ r.p95
  p95_le_p99 : r.p95 ≤ r.p99
  p99_le_p999 : r.p99 ≤ r.p999
  p999_le_max : r.p999 ≤ r.max
  min_le_mean : r.min ≤ r.mean
  mean_le_max : r.mean ≤ r.max

/-- The mean of the squared distances from a number. -/
def meanSquaredDeviation (xs : List ℚ) (c : ℚ) : ℚ :=
  (xs.map fun x => (x - c) ^ 2).sum / xs.length

theorem linear_le : Linear fun x y : ℚ => decide (x ≤ y) where
  trans x y z hxy hyz := by simpa using (of_decide_eq_true hxy).trans (of_decide_eq_true hyz)
  total x y := by simpa using le_total x y
  antisymm x y hxy hyx := le_antisymm (of_decide_eq_true hxy) (of_decide_eq_true hyx)

variable {root : ℚ → ℚ} {xs s : List ℚ} {low high c : ℚ}

theorem mean_exact (root : ℚ → ℚ) (xs : List ℚ) :
    mean (Arithmetic.exact root) xs = xs.sum / xs.length := by
  change (Arithmetic.exact root).sum xs / (Arithmetic.exact root).ofNat xs.length = _
  rw [Arithmetic.sum_exact, Arithmetic.ofNat_exact]

theorem variance_exact (root : ℚ → ℚ) (xs : List ℚ) (c : ℚ) :
    variance (Arithmetic.exact root) xs c = meanSquaredDeviation xs c := by
  change (Arithmetic.exact root).sum (xs.map fun x => (x - c) * (x - c)) /
    (Arithmetic.exact root).ofNat xs.length = _
  simp only [Arithmetic.sum_exact, Arithmetic.ofNat_exact, meanSquaredDeviation, sq]

theorem mean_bounds (hne : xs ≠ []) (hlow : ∀ x ∈ xs, low ≤ x) (hhigh : ∀ x ∈ xs, x ≤ high) :
    low ≤ xs.sum / xs.length ∧ xs.sum / xs.length ≤ high := by
  have hpos : (0 : ℚ) < xs.length := by exact_mod_cast List.length_pos_iff.2 hne
  rw [le_div_iff₀ hpos, div_le_iff₀ hpos, mul_comm low, mul_comm high, ← nsmul_eq_mul,
    ← nsmul_eq_mul]
  exact ⟨List.card_nsmul_le_sum xs low hlow, List.sum_le_card_nsmul xs high hhigh⟩

theorem meanSquaredDeviation_eq_zero_iff (hne : xs ≠ []) :
    meanSquaredDeviation xs c = 0 ↔ ∀ x ∈ xs, x = c := by
  have hpos : (xs.length : ℚ) ≠ 0 := by exact_mod_cast (List.length_pos_iff.2 hne).ne'
  rw [meanSquaredDeviation, div_eq_zero_iff, or_iff_left hpos]
  constructor
  · intro hsum x hx
    have hsquare : (x - c) ^ 2 = 0 :=
      List.all_zero_of_le_zero_le_of_sum_eq_zero
        (by simp only [List.forall_mem_map]; exact fun y _ => sq_nonneg (y - c)) hsum
        (List.mem_map_of_mem hx)
    exact sub_eq_zero.1 (pow_eq_zero_iff two_ne_zero |>.1 hsquare)
  · intro hall
    refine List.sum_eq_zero ?_
    simp only [List.forall_mem_map]
    intro x hx
    rw [hall x hx, sub_self, sq, zero_mul]

/-- There is no spread around the mean if all samples are the same. -/
theorem meanSquaredDeviation_mean_eq_zero_iff (hne : xs ≠ []) :
    meanSquaredDeviation xs (xs.sum / xs.length) = 0 ↔ ∀ x ∈ xs, ∀ y ∈ xs, x = y := by
  rw [meanSquaredDeviation_eq_zero_iff hne]
  constructor
  · intro hall x hx y hy
    rw [hall x hx, hall y hy]
  · intro hall x hx
    obtain ⟨hle, hge⟩ := mean_bounds hne (fun y hy => (hall x hx y hy).le)
      (fun y hy => (hall y hy x hx).le)
    exact le_antisymm hle hge

theorem fields_summarise {α : Type} (A : Arithmetic α) {sorted : List α} (h : sorted ≠ []) :
    let r := summarise A sorted
    r.mean = mean A sorted ∧ r.stddev = A.sqrt (variance A sorted r.mean) ∧
      r.p50 = rank A sorted 50 1 ∧ r.p90 = rank A sorted 90 1 ∧ r.p95 = rank A sorted 95 1 ∧
      r.p99 = rank A sorted 99 1 ∧ r.p999 = rank A sorted 999 10 := by
  cases sorted with
  | nil => exact absurd rfl h
  | cons first rest => exact ⟨rfl, rfl, rfl, rfl, rfl, rfl, rfl⟩

theorem meanSquaredDeviation_perm {xs ys : List ℚ} (h : xs.Perm ys) (c : ℚ) :
    meanSquaredDeviation xs c = meanSquaredDeviation ys c := by
  rw [meanSquaredDeviation, meanSquaredDeviation, (h.map _).sum_eq, h.length_eq]

theorem extremes_eq_line (root : ℚ → ℚ) (hne : s ≠ []) :
    (summarise (Arithmetic.exact root) s).min = line s (place s 0) ∧
      (summarise (Arithmetic.exact root) s).max = line s (place s 100) := by
  obtain ⟨hfirst, hlast⟩ := extremes_summarise (Arithmetic.exact root) hne
  rw [head?_eq_line hne] at hfirst
  rw [getLast?_eq_line hne] at hlast
  exact ⟨(Option.some.inj hfirst).symm, (Option.some.inj hlast).symm⟩

section Ascending

variable (hne : s ≠ []) (hs : s.Pairwise (· ≤ ·))
include hne hs

theorem percentile?_eq_rank {num den : Nat} (hle : (num / den : ℚ) ≤ 100) :
    percentile? (Arithmetic.exact root) s (num / den) =
        some (rank (Arithmetic.exact root) s num den) ∧
      rank (Arithmetic.exact root) s num den = line s (place s (num / den)) := by
  have hline : percentile? (Arithmetic.exact root) s (num / den) =
      some (line s (place s (num / den))) := percentile?_of_le hne hs (by positivity) hle
  have hrank : rank (Arithmetic.exact root) s num den = line s (place s (num / den)) := by
    rw [rank, Arithmetic.ratio_exact, hline, Option.getD_some]
  exact ⟨hline.trans (congrArg some hrank.symm), hrank⟩

theorem rank_mono {a b c d : Nat} (h : (a / b : ℚ) ≤ c / d) (hle : (c / d : ℚ) ≤ 100) :
    rank (Arithmetic.exact root) s a b ≤ rank (Arithmetic.exact root) s c d := by
  rw [(percentile?_eq_rank hne hs (h.trans hle)).2, (percentile?_eq_rank hne hs hle).2]
  exact line_place_mono hne hs (by positivity) h hle

/-- The figures of an ascending list are in order. -/
theorem inOrder_summarise : (summarise (Arithmetic.exact root) s).InOrder := by
  obtain ⟨hmin, hmax⟩ := extremes_eq_line root hne
  obtain ⟨hmean, -, h50, h90, h95, h99, h999⟩ := fields_summarise (Arithmetic.exact root) hne
  obtain ⟨hlow, hhigh⟩ := mean_bounds hne (fun x hx => (bounds_of_mem hne hs hx).1)
    (fun x hx => (bounds_of_mem hne hs hx).2)
  constructor
  case min_le_p50 =>
    rw [hmin, h50, (percentile?_eq_rank hne hs (by norm_num)).2]
    exact line_place_mono hne hs le_rfl (by norm_num) (by norm_num)
  case p50_le_p90 =>
    rw [h50, h90]
    exact rank_mono hne hs (by norm_num) (by norm_num)
  case p90_le_p95 =>
    rw [h90, h95]
    exact rank_mono hne hs (by norm_num) (by norm_num)
  case p95_le_p99 =>
    rw [h95, h99]
    exact rank_mono hne hs (by norm_num) (by norm_num)
  case p99_le_p999 =>
    rw [h99, h999]
    exact rank_mono hne hs (by norm_num) (by norm_num)
  case p999_le_max =>
    rw [hmax, h999, (percentile?_eq_rank hne hs (by norm_num)).2]
    exact line_place_mono hne hs (by norm_num) (by norm_num) le_rfl
  case min_le_mean => rwa [hmin, hmean, mean_exact]
  case mean_le_max => rwa [hmax, hmean, mean_exact]

end Ascending

/-- **Percentiles and figures keep their order**, computed without rounding. Percentiles of an
ascending list ascend from its first element at 0 to its last at 100 and lie between the neighbours
of their place. They do not exist exactly if there are two elements and the place of the lower
neighbour is past the end, wherever the indices that a word holds end. So the figures of a sample
are in order, and its spread is zero exactly if all samples are the same. -/
theorem percentiles_in_order (root : ℚ → ℚ) :
    (∀ s : List ℚ, s ≠ [] → s.Pairwise (· ≤ ·) →
      let value (p : ℚ) := percentile? (Arithmetic.exact root) s p
      let place (p : ℚ) := p / 100 * (s.length - 1)
      (∀ p q, 0 ≤ p → p ≤ q → q ≤ 100 → ∃ x y, value p = some x ∧ value q = some y ∧ x ≤ y) ∧
      value 0 = s.head? ∧ value 100 = s.getLast? ∧
      (∀ p, 0 ≤ p → p ≤ 100 → ∃ low x high, s[⌊place p⌋₊]? = some low ∧ value p = some x ∧
        s[⌈place p⌉₊]? = some high ∧ low ≤ x ∧ x ≤ high) ∧
      (∀ p, value p = none ↔ 2 ≤ s.length ∧ 100 * s.length ≤ p * (s.length - 1)) ∧
      (∀ p, p ≤ 100 → value p ≠ none) ∧
      ∀ limit, s.length ≤ limit →
        ∀ p, percentile? ((Arithmetic.exact root).upTo limit) s p = value p) ∧
    ∀ xs : List ℚ, xs ≠ [] →
      let sorted := ordered (fun x y => x ≤ y) xs
      let figures := summarise (Arithmetic.exact root) sorted
      let value (p : ℚ) := percentile? (Arithmetic.exact root) sorted p
      let variance := meanSquaredDeviation xs figures.mean
      (value 50 = some figures.p50 ∧ value 90 = some figures.p90 ∧ value 95 = some figures.p95 ∧
        value 99 = some figures.p99 ∧ value 99.9 = some figures.p999) ∧
      figures.InOrder ∧
      figures.mean = xs.sum / xs.length ∧ figures.stddev = root variance ∧
      (variance = 0 ↔ ∀ x ∈ xs, ∀ y ∈ xs, x = y) := by
  constructor
  · intro s hne hs
    refine ⟨fun p q hp hpq hle => ?_, percentile?_zero hne hs, percentile?_hundred hne hs,
      fun p hp hle => ?_, fun p => percentile?_eq_none_iff hne, fun p => percentile?_ne_none hne,
      fun limit hlimit => percentile?_upTo _ hlimit⟩
    · exact ⟨_, _, percentile?_of_le hne hs hp (hpq.trans hle),
        percentile?_of_le hne hs (hp.trans hpq) hle, line_place_mono hne hs hp hpq hle⟩
    · obtain ⟨hplace, hceil⟩ := place_bounds hne hp hle
      have hfloor := Nat.lt_of_le_of_lt (Nat.floor_le_ceil _) hceil
      exact ⟨_, _, _, getElem?_eq_height hfloor, percentile?_of_le hne hs hp hle,
        getElem?_eq_height hceil, line_bounds hs hplace hceil⟩
  · intro xs hne sorted figures
    have hsorted : sorted ≠ [] := ordered_ne_nil hne
    have hascending : sorted.Pairwise (· ≤ ·) :=
      (linear_le.pairwise_ordered xs).imp fun h => of_decide_eq_true h
    have hperm : sorted.Perm xs := ordered_perm _ xs
    obtain ⟨hmean, hstddev, h50, h90, h95, h99, h999⟩ :=
      fields_summarise (Arithmetic.exact root) hsorted
    have hmean : figures.mean = xs.sum / xs.length := by
      rw [hmean, mean_exact, hperm.sum_eq, hperm.length_eq]
    have hstddev : figures.stddev = root (meanSquaredDeviation xs figures.mean) := by
      rw [← meanSquaredDeviation_perm hperm, ← variance_exact root]
      exact hstddev
    have hvalue (num den : Nat) (hle : (num / den : ℚ) ≤ 100) :
        percentile? (Arithmetic.exact root) sorted (num / den) =
          some (rank (Arithmetic.exact root) sorted num den) :=
      (percentile?_eq_rank hsorted hascending hle).1
    refine ⟨⟨?_, ?_, ?_, ?_, ?_⟩, inOrder_summarise hsorted hascending, hmean, hstddev, ?_⟩
    · simpa [← h50] using hvalue 50 1 (by norm_num)
    · simpa [← h90] using hvalue 90 1 (by norm_num)
    · simpa [← h95] using hvalue 95 1 (by norm_num)
    · simpa [← h99] using hvalue 99 1 (by norm_num)
    · have hshare : (99.9 : ℚ) = (999 : Nat) / (10 : Nat) := by norm_num
      rw [hshare, h999]
      exact hvalue 999 10 (by norm_num)
    · rw [hmean]
      exact meanSquaredDeviation_mean_eq_zero_iff hne

/-- Percentiles of three samples exist up to 150, and their figures are in order in whichever order
the samples arrive. -/
theorem percentiles_in_order_three :
    percentile? (Arithmetic.exact id) [10, 20, 40] 100 = some 40 ∧
      percentile? (Arithmetic.exact id) [10, 20, 40] 149 ≠ none ∧
      percentile? (Arithmetic.exact id) [10, 20, 40] 150 = none ∧
      (summarise (Arithmetic.exact id) (ordered (fun x y => x ≤ y) [40, 10, 20])).InOrder := by
  obtain ⟨hlist, hsample⟩ := percentiles_in_order id
  obtain ⟨-, -, hhundred, -, hnone, -⟩ := hlist [10, 20, 40] (by simp) (by simp; norm_num)
  refine ⟨by simpa using hhundred, ?_, ?_, (hsample [40, 10, 20] (by simp)).2.1⟩
  · rw [ne_eq, hnone]
    norm_num
  · rw [hnone]
    norm_num

end LoopGauge.Statistics
