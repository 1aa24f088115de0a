import LoopGauge.Proofs.Statistics.Ordered

/-!
# Where NaNs stand in an ordered sample

The total order tells NaNs by their sign: positive ones stand above infinity and negative ones below
negative infinity. So NaNs come last only where none is negative, or where there is nothing else.

## Main definitions

* `NaNsLast`: a list of ascending numbers with the NaNs behind them.

## Main statements

* `eq_filters`: negative NaNs, then numbers, then positive NaNs.
* `nansLast_iff`: when NaNs come last, and when the smallest sample is one.
* `nans_first`: a negative NaN comes first.
-/

namespace LoopGauge.Statistics

open Number

section Pairwise

variable {α : Type} {p : α → Bool} {l : List α}

/-- What all smaller elements have too stands in front. -/
theorem filter_append_filter_not (h : l.Pairwise fun x y => p y → p x) :
    l.filter p ++ l.filter (!p ·) = l := by
  induction l with
  | nil => rfl
  | cons x l ih =>
    obtain ⟨hx, hl⟩ := List.pairwise_cons.1 h
    by_cases hp : p x
    · rw [List.filter_cons_of_pos hp, List.filter_cons_of_neg (by simpa using hp),
        List.cons_append, ih hl]
    · have hnone : ∀ y ∈ l, ¬p y := fun y hy hpy => hp (hx y hy hpy)
      rw [List.filter_cons_of_neg hp, List.filter_cons_of_pos (by simpa using hp),
        List.filter_eq_nil_iff.2 hnone, List.nil_append,
        List.filter_eq_self.2 fun y hy => by simpa using hnone y hy]

end Pairwise

variable {xs sorted : List Binary64} {x first : Binary64}

/-- A NaN below all numbers. -/
def isLowNaN (x : Binary64) : Bool := x.isNaN && x.negative

/-- A NaN above all numbers. -/
def isHighNaN (x : Binary64) : Bool := x.isNaN && !x.negative

theorem isLowNaN_iff : isLowNaN x ↔ x.isNaN ∧ x.negative := by simp [isLowNaN]

theorem isHighNaN_iff : isHighNaN x ↔ x.isNaN ∧ ¬x.negative := by simp [isHighNaN]

theorem isLowNaN_of_totalLe {x y : Binary64} (h : x.totalLe y) (hy : isLowNaN y) : isLowNaN x := by
  rw [isLowNaN_iff] at hy ⊢
  exact Binary64.isNaN_of_totalLe_low h hy.1 hy.2

theorem isHighNaN_of_totalLe {x y : Binary64} (h : x.totalLe y) (hx : isHighNaN x) :
    isHighNaN y := by
  rw [isHighNaN_iff] at hx ⊢
  exact Binary64.isNaN_of_totalLe_high h hx.1 hx.2

/-- Negative NaNs stand in front of all numbers and positive ones behind them. -/
theorem eq_filters (h : sorted.Pairwise fun x y => x.totalLe y) :
    sorted = sorted.filter isLowNaN ++ sorted.filter (!·.isNaN) ++ sorted.filter isHighNaN := by
  have hhigh : sorted.filter (!isHighNaN ·) ++ sorted.filter isHighNaN = sorted := by
    have hsplit := filter_append_filter_not (p := (!isHighNaN ·)) (h.imp fun {x y} hxy => by
      simpa using mt (isHighNaN_of_totalLe hxy))
    simpa using hsplit
  have hlow : sorted.filter isLowNaN ++ sorted.filter (!·.isNaN) =
      sorted.filter (!isHighNaN ·) := by
    have hbelow := (h.filter (!isHighNaN ·)).imp fun hxy => isLowNaN_of_totalLe hxy
    have hsplit := filter_append_filter_not hbelow
    rw [List.filter_filter, List.filter_filter] at hsplit
    rw [← hsplit]
    congr 1
    all_goals
      refine List.filter_congr fun x _ => ?_
      cases hnan : x.isNaN <;> cases hsign : x.negative <;> simp [isLowNaN, isHighNaN, hnan, hsign]
  rw [hlow, hhigh]

theorem pairwise_le_filter (h : sorted.Pairwise fun x y => x.totalLe y) :
    (sorted.filter (!·.isNaN)).Pairwise fun x y => x.le y := by
  refine (h.filter _).imp_of_mem fun {x y} hx hy hxy => ?_
  have hnumber {z : Binary64} (hz : z ∈ sorted.filter (!·.isNaN)) : ¬z.isNaN := by
    simpa using (List.mem_filter.1 hz).2
  exact Binary64.le_of_totalLe hxy (hnumber hx) (hnumber hy)

/-- Ascending numbers with the NaNs behind them. -/
def NaNsLast (sorted : List Binary64) : Prop :=
  ∃ numbers nans, sorted = numbers ++ nans ∧ (∀ x ∈ numbers, ¬x.isNaN) ∧
    (numbers.Pairwise fun x y => x.le y) ∧ ∀ x ∈ nans, x.isNaN

/-- The first of an ascending list is a NaN only as a negative one, or if there is nothing else. -/
theorem isNaN_head_iff (h : sorted.Pairwise fun x y => x.totalLe y)
    (hfirst : sorted.head? = some first) :
    first.isNaN ↔ (∃ x ∈ sorted, x.isNaN ∧ x.negative) ∨ ∀ x ∈ sorted, x.isNaN := by
  obtain ⟨rest, rfl⟩ := List.head?_eq_some_iff.1 hfirst
  have hleast : ∀ x ∈ first :: rest, first.totalLe x := by
    intro x hx
    obtain rfl | hx := List.mem_cons.1 hx
    · exact (Binary64.totalLe_total x x).elim id id
    · exact (List.pairwise_cons.1 h).1 x hx
  constructor
  · intro hnan
    by_cases hsign : first.negative
    · exact .inl ⟨first, List.mem_cons_self, hnan, hsign⟩
    · exact .inr fun x hx => (Binary64.isNaN_of_totalLe_high (hleast x hx) hnan hsign).1
  · rintro (⟨x, hx, hnan, hsign⟩ | hall)
    · exact (Binary64.isNaN_of_totalLe_low (hleast x hx) hnan hsign).1
    · exact hall first List.mem_cons_self

theorem nansLast_of_not_negative (h : sorted.Pairwise fun x y => x.totalLe y)
    (hhigh : ∀ x ∈ sorted, x.isNaN → ¬x.negative) : NaNsLast sorted := by
  have hnone : sorted.filter isLowNaN = [] :=
    List.filter_eq_nil_iff.2 fun x hx hlow =>
      hhigh x hx (isLowNaN_iff.1 hlow).1 (isLowNaN_iff.1 hlow).2
  refine ⟨sorted.filter (!·.isNaN), sorted.filter isHighNaN, ?_, fun x hx => ?_,
    pairwise_le_filter h, fun x hx => ?_⟩
  · simpa [hnone] using eq_filters h
  · simpa using (List.mem_filter.1 hx).2
  · exact (isHighNaN_iff.1 (List.mem_filter.1 hx).2).1

/-- **Negative NaNs come first**: an ordered sample is its negative NaNs, its numbers as they ascend
and its positive NaNs. So NaNs come last exactly if none is negative or there is nothing else, and
the smallest sample is a NaN exactly if some NaN is negative or there is nothing else. -/
theorem nansLast_iff (A : Arithmetic Binary64) (xs : List Binary64) :
    let sorted := ordered Binary64.totalLe xs
    sorted = sorted.filter isLowNaN ++ sorted.filter (!·.isNaN) ++ sorted.filter isHighNaN ∧
      ((sorted.filter (!·.isNaN)).Pairwise fun x y => x.le y) ∧
      (NaNsLast sorted ↔ (∀ x ∈ xs, x.isNaN → ¬x.negative) ∨ ∀ x ∈ xs, x.isNaN) ∧
      (xs ≠ [] → ((summarise A sorted).min.isNaN ↔
        (∃ x ∈ xs, x.isNaN ∧ x.negative) ∨ ∀ x ∈ xs, x.isNaN)) := by
  intro sorted
  have hascending : sorted.Pairwise fun x y => x.totalLe y := linear_totalLe.pairwise_ordered xs
  have hmem {x : Binary64} : x ∈ sorted ↔ x ∈ xs := mem_ordered
  have hhead {first : Binary64} (h : sorted.head? = some first) :
      first.isNaN ↔ (∃ x ∈ xs, x.isNaN ∧ x.negative) ∨ ∀ x ∈ xs, x.isNaN := by
    simpa only [hmem] using isNaN_head_iff hascending h
  refine ⟨eq_filters hascending, pairwise_le_filter hascending, ⟨?_, ?_⟩, fun hne => ?_⟩
  · rintro ⟨numbers, nans, heq, hnumbers, -, hnans⟩
    cases numbers with
    | nil => exact .inr fun x hx => hnans x (by simpa [heq] using hmem.2 hx)
    | cons first numbers =>
      have hnumber := hnumbers first List.mem_cons_self
      rw [hhead (by rw [heq]; rfl), not_or] at hnumber
      exact .inl fun x hx hnan hsign => hnumber.1 ⟨x, hx, hnan, hsign⟩
  · rintro (hhigh | hall)
    · exact nansLast_of_not_negative hascending fun x hx => hhigh x (hmem.1 hx)
    · exact ⟨[], sorted, rfl, nofun, .nil, fun x hx => hall x (hmem.1 hx)⟩
  · exact hhead (extremes_summarise A (ordered_ne_nil hne)).1

/-- A positive NaN arrives first and comes last. -/
theorem nansLast_iff_positive :
    NaNsLast (ordered Binary64.totalLe [.nan, .negInfinity, .zero]) ∧
      ¬(ofSamples [.nan, .negInfinity, .zero]).min.isNaN := by
  obtain ⟨-, -, hlast, hmin⟩ :=
    nansLast_iff Binary64.arithmetic [.nan, .negInfinity, .zero]
  exact ⟨hlast.2 (.inl (by decide)), mt (hmin (by simp)).1 (by decide)⟩

/-- A negative NaN and a one: the NaN comes first and is the smallest sample, though the other
sample is a number. -/
theorem nans_first :
    let samples : List Binary64 := [⟨0xfff8000000000000⟩, ⟨0x3ff0000000000000⟩]
    ordered Binary64.totalLe samples = samples ∧
      ¬NaNsLast (ordered Binary64.totalLe samples) ∧
      (ofSamples samples).min.isNaN ∧ ¬∀ x ∈ samples, x.isNaN := by
  intro samples
  have hsorted : ordered Binary64.totalLe samples = samples :=
    (linear_totalLe.eq_ordered (.refl _) (by decide)).symm
  refine ⟨hsorted, ?_, ?_, by decide⟩
  · rw [hsorted]
    rintro ⟨numbers, nans, heq, hnumbers, -, hnans⟩
    cases numbers with
    | nil =>
      obtain rfl : samples = nans := heq
      exact absurd (hnans ⟨0x3ff0000000000000⟩ (by decide)) (by decide)
    | cons first numbers =>
      obtain ⟨rfl, -⟩ := List.cons.inj heq
      exact absurd (hnumbers _ List.mem_cons_self) (by decide)
  · rw [ofSamples, hsorted]
    decide

end LoopGauge.Statistics
