import LoopGauge.Proofs.Number.Exact
import LoopGauge.Statistics.Percentile
import Mathlib.Tactic.Linarith

/-!
# Percentiles in exact arithmetic

The elements of an ascending list are joined to a broken line, on which a percentile takes the place
that its share of the length gives. The line ascends as the list does, so percentiles ascend, and a
percentile lies between its neighbours. One without neighbours does not exist.

## Main definitions

* `place`: the place of a percentile.
* `line`: the broken line through the elements of a list.

## Main statements

* `percentile?_eq_line`: a percentile is a point of the line.
* `line_mono`: the line ascends.
* `percentile?_eq_none_iff`: which percentiles do not exist.
* `percentile?_upTo`: a bound on indices that the list does not reach makes no difference.
-/

namespace LoopGauge.Statistics

open Number

/-- An index beyond the list stays beyond it, so it does not matter where such indices end. -/
theorem percentile?_upTo {α : Type} (A : Arithmetic α) {sorted : List α} {limit : Nat}
    (h : sorted.length ≤ limit) (p : α) :
    percentile? (A.upTo limit) sorted p = percentile? A sorted p := by
  cases sorted with
  | nil => rfl
  | cons first rest =>
    generalize hsorted : first :: rest = sorted at h ⊢
    have hne : sorted.isEmpty = false := by simp [← hsorted]
    have hlength : 0 < sorted.length := by simp [← hsorted]
    have hposition : position (A.upTo limit) sorted.length p = position A sorted.length p := rfl
    simp only [percentile?, hne, Bool.false_eq_true, if_false, hposition]
    generalize position A sorted.length p = x
    have hupper : Nat.min ((A.upTo limit).ceilIndex x) (sorted.length - 1) =
        Nat.min (A.ceilIndex x) (sorted.length - 1) := by
      change min (min _ limit) _ = min _ _
      omega
    have hwithin : Nat.min (A.ceilIndex x) (sorted.length - 1) < sorted.length := by
      change min _ _ < _
      omega
    rw [hupper]
    by_cases hlower : A.floorIndex x ≤ limit
    · have hsame : (A.upTo limit).floorIndex x = A.floorIndex x := Nat.min_eq_left hlower
      rw [hsame]
      rfl
    · have hcut : (A.upTo limit).floorIndex x = limit := Nat.min_eq_right (by omega)
      have hbeyond : sorted.length ≤ A.floorIndex x := by omega
      rw [hcut, if_neg (Nat.lt_of_lt_of_le hwithin h).ne', List.getElem?_eq_none h,
        if_neg (Nat.lt_of_lt_of_le hwithin hbeyond).ne', List.getElem?_eq_none hbeyond]
      rfl

variable {root : ℚ → ℚ} {s : List ℚ} {x y p : ℚ} {i j : Nat}

/-- The place of a percentile on the line through the elements of a list. -/
def place (s : List ℚ) (p : ℚ) : ℚ := p / 100 * (s.length - 1)

theorem place_mono (hne : s ≠ []) {q : ℚ} (h : p ≤ q) : place s p ≤ place s q := by
  have hlength : (1 : ℚ) ≤ s.length := by exact_mod_cast List.length_pos_iff.2 hne
  exact mul_le_mul_of_nonneg_right (div_le_div_of_nonneg_right h (by norm_num))
    (sub_nonneg.2 hlength)

theorem place_zero (s : List ℚ) : place s 0 = 0 := by simp [place]

theorem place_hundred (s : List ℚ) : place s 100 = s.length - 1 := by simp [place]

theorem position_exact (p : ℚ) : position (Arithmetic.exact root) s.length p = place s p := by
  change p / (Arithmetic.exact root).ofNat 100 *
    ((Arithmetic.exact root).ofNat s.length - (Arithmetic.exact root).ofNat 1) = place s p
  simp [place]

/-- The height of the line at an element. -/
def height (s : List ℚ) (i : Nat) : ℚ := s[i]?.getD 0

/-- The broken line through the elements of a list. -/
def line (s : List ℚ) (x : ℚ) : ℚ :=
  height s ⌊x⌋₊ + (x - ⌊x⌋₊) * (height s ⌈x⌉₊ - height s ⌊x⌋₊)

theorem getElem?_eq_height (hi : i < s.length) : s[i]? = some (height s i) := by
  rw [height, List.getElem?_eq_getElem hi, Option.getD_some]

theorem height_mono (hs : s.Pairwise (· ≤ ·)) (hij : i ≤ j) (hj : j < s.length) :
    height s i ≤ height s j := by
  have hi := Nat.lt_of_le_of_lt hij hj
  rw [height, height, List.getElem?_eq_getElem hi, List.getElem?_eq_getElem hj]
  obtain rfl | hlt := Nat.eq_or_lt_of_le hij
  · exact le_rfl
  · exact List.pairwise_iff_getElem.1 hs i j hi hj hlt

theorem ceil_lt_length (hne : s ≠ []) (hx : x ≤ s.length - 1) : ⌈x⌉₊ < s.length := by
  have hpos := List.length_pos_iff.2 hne
  have hle : ⌈x⌉₊ ≤ s.length - 1 := Nat.ceil_le.2 (by rwa [Nat.cast_pred hpos])
  omega

/-- The line runs between the two elements at either side. -/
theorem line_bounds (hs : s.Pairwise (· ≤ ·)) (hx : 0 ≤ x) (hceil : ⌈x⌉₊ < s.length) :
    height s ⌊x⌋₊ ≤ line s x ∧ line s x ≤ height s ⌈x⌉₊ := by
  have hstep := height_mono hs (Nat.floor_le_ceil x) hceil
  have hlow : 0 ≤ x - ⌊x⌋₊ := sub_nonneg.2 (Nat.floor_le hx)
  have hhigh : x - ⌊x⌋₊ ≤ 1 := by linarith [Nat.lt_floor_add_one x]
  rw [line]
  constructor
  · linarith [mul_nonneg hlow (sub_nonneg.2 hstep)]
  · linarith [mul_le_mul_of_nonneg_right hhigh (sub_nonneg.2 hstep)]

theorem line_mono (hs : s.Pairwise (· ≤ ·)) (hx : 0 ≤ x) (hxy : x ≤ y)
    (hceil : ⌈y⌉₊ < s.length) : line s x ≤ line s y := by
  have hy := hx.trans hxy
  have hceils : ⌈x⌉₊ ≤ ⌈y⌉₊ := Nat.ceil_mono hxy
  have hx_ceil := Nat.lt_of_le_of_lt hceils hceil
  obtain heq | hlt := Nat.eq_or_lt_of_le (Nat.floor_mono hxy)
  -- Between the same elements the line is straight.
  · rw [line, line, heq]
    have hrise : height s ⌈x⌉₊ - height s ⌊y⌋₊ ≤ height s ⌈y⌉₊ - height s ⌊y⌋₊ :=
      sub_le_sub_right (height_mono hs hceils hceil) _
    have hstep : 0 ≤ height s ⌈x⌉₊ - height s ⌊y⌋₊ :=
      sub_nonneg.2 (heq ▸ height_mono hs (Nat.floor_le_ceil x) hx_ceil)
    have hrun : x - ⌊y⌋₊ ≤ y - ⌊y⌋₊ := sub_le_sub_right hxy _
    exact add_le_add_right (mul_le_mul hrun hrise hstep (sub_nonneg.2 (Nat.floor_le hy))) _
  -- Otherwise an element lies between the two places.
  · have hbetween : ⌈x⌉₊ ≤ ⌊y⌋₊ := (Nat.ceil_le_floor_add_one x).trans hlt
    calc line s x ≤ height s ⌈x⌉₊ := (line_bounds hs hx hx_ceil).2
      _ ≤ height s ⌊y⌋₊ :=
          height_mono hs hbetween (Nat.lt_of_le_of_lt (Nat.floor_le_ceil y) hceil)
      _ ≤ line s y := (line_bounds hs hy hceil).1

theorem line_natCast (s : List ℚ) (i : Nat) : line s i = height s i := by simp [line]

/-- What there is at a place: the element there, or the point between its neighbours. -/
theorem percentile?_exact (root : ℚ → ℚ) (hne : s ≠ []) (p : ℚ) :
    percentile? (Arithmetic.exact root) s p =
      let lower := ⌊place s p⌋₊
      let upper := min ⌈place s p⌉₊ (s.length - 1)
      if lower = upper then s[lower]?
      else do
        let low ← s[lower]?
        let high ← s[upper]?
        return min (low + (place s p - lower) * (high - low)) high := by
  have hfalse : s.isEmpty = false := List.isEmpty_eq_false_iff.2 hne
  simp only [percentile?, hfalse, Bool.false_eq_true, if_false, position_exact, interpolate,
    Arithmetic.ofNat_exact]
  rfl

/-- A percentile at a place up to the last element is the point of the line there. -/
theorem percentile?_eq_line (hne : s ≠ []) (hs : s.Pairwise (· ≤ ·)) (hpos : 0 ≤ place s p)
    (hceil : ⌈place s p⌉₊ < s.length) :
    percentile? (Arithmetic.exact root) s p = some (line s (place s p)) := by
  have hfloor := Nat.lt_of_le_of_lt (Nat.floor_le_ceil (place s p)) hceil
  have hle := (line_bounds hs hpos hceil).2
  rw [percentile?_exact root hne]
  dsimp only
  rw [min_eq_left (Nat.le_sub_one_of_lt hceil), getElem?_eq_height hfloor,
    getElem?_eq_height hceil]
  split
  next heq => rw [line, ← heq, sub_self, mul_zero, add_zero]
  next => exact congrArg some (min_eq_left hle)

theorem place_bounds (hne : s ≠ []) (hp : 0 ≤ p) (hle : p ≤ 100) :
    0 ≤ place s p ∧ ⌈place s p⌉₊ < s.length := by
  constructor
  · exact (place_zero s).symm.le.trans (place_mono hne hp)
  · exact ceil_lt_length hne ((place_mono hne hle).trans (place_hundred s).le)

theorem line_place_zero (s : List ℚ) : line s (place s 0) = height s 0 := by
  rw [place_zero, ← Nat.cast_zero, line_natCast]

theorem line_place_hundred (hne : s ≠ []) :
    line s (place s 100) = height s (s.length - 1) := by
  rw [place_hundred, ← Nat.cast_pred (List.length_pos_iff.2 hne), line_natCast]

theorem head?_eq_line (hne : s ≠ []) : s.head? = some (line s (place s 0)) := by
  have hlength := List.length_pos_iff.2 hne
  rw [line_place_zero, ← getElem?_eq_height hlength, List.head?_eq_getElem?]

theorem getLast?_eq_line (hne : s ≠ []) : s.getLast? = some (line s (place s 100)) := by
  have hlength := List.length_pos_iff.2 hne
  rw [line_place_hundred hne, ← getElem?_eq_height (Nat.sub_one_lt hlength.ne'),
    List.getLast?_eq_getElem?]

section Percentages

variable {q : ℚ} (hne : s ≠ []) (hs : s.Pairwise (· ≤ ·))
include hne hs

theorem percentile?_of_le (hp : 0 ≤ p) (hle : p ≤ 100) :
    percentile? (Arithmetic.exact root) s p = some (line s (place s p)) :=
  percentile?_eq_line hne hs (place_bounds hne hp hle).1 (place_bounds hne hp hle).2

theorem line_place_mono (hp : 0 ≤ p) (hpq : p ≤ q) (hle : q ≤ 100) :
    line s (place s p) ≤ line s (place s q) :=
  line_mono hs (place_bounds hne hp (hpq.trans hle)).1 (place_mono hne hpq)
    (place_bounds hne (hp.trans hpq) hle).2

/-- The line starts at the smallest element and ends at the greatest. -/
theorem bounds_of_mem (hx : x ∈ s) : line s (place s 0) ≤ x ∧ x ≤ line s (place s 100) := by
  obtain ⟨i, hi, rfl⟩ := List.mem_iff_getElem.1 hx
  have hheight : s[i] = height s i :=
    Option.some.inj ((List.getElem?_eq_getElem hi).symm.trans (getElem?_eq_height hi))
  rw [line_place_zero, line_place_hundred hne, hheight]
  exact ⟨height_mono hs (Nat.zero_le i) hi, height_mono hs (by omega) (by omega)⟩

theorem percentile?_zero : percentile? (Arithmetic.exact root) s 0 = s.head? := by
  rw [percentile?_of_le hne hs le_rfl (by norm_num), head?_eq_line hne]

theorem percentile?_hundred : percentile? (Arithmetic.exact root) s 100 = s.getLast? := by
  rw [percentile?_of_le hne hs (by norm_num) le_rfl, getLast?_eq_line hne]

end Percentages

/-- A percentile does not exist if its lower neighbour lies past the end. -/
theorem percentile?_eq_none_iff (hne : s ≠ []) :
    percentile? (Arithmetic.exact root) s p = none ↔
      2 ≤ s.length ∧ 100 * s.length ≤ p * (s.length - 1) := by
  have hlength := List.length_pos_iff.2 hne
  have hplace : (s.length : ℚ) ≤ place s p ↔ 100 * s.length ≤ p * (s.length - 1) := by
    rw [place, div_mul_eq_mul_div, le_div_iff₀ (by norm_num), mul_comm]
  rw [percentile?_exact root hne, ← hplace]
  dsimp only
  have hupper : min ⌈place s p⌉₊ (s.length - 1) < s.length := by omega
  rw [getElem?_eq_height hupper]
  by_cases hpast : (s.length : ℚ) ≤ place s p
  · have hfloor : s.length ≤ ⌊place s p⌋₊ := Nat.le_floor hpast
    have htwo : 2 ≤ s.length := by
      by_contra hone
      have hlast : s.length = 1 := by omega
      simp [place, hlast] at hpast
      exact absurd hpast (by norm_num)
    rw [if_neg (by omega), List.getElem?_eq_none hfloor]
    exact iff_of_true rfl ⟨htwo, hpast⟩
  · have hfloor : ⌊place s p⌋₊ < s.length := by
      obtain hneg | hpos := le_total (place s p) 0
      · rwa [Nat.floor_of_nonpos hneg]
      · exact (Nat.floor_lt hpos).2 (not_le.1 hpast)
    rw [getElem?_eq_height hfloor]
    refine iff_of_false ?_ fun h => hpast h.2
    split
    next => exact nofun
    next => exact nofun

theorem percentile?_ne_none (hne : s ≠ []) (hle : p ≤ 100) :
    percentile? (Arithmetic.exact root) s p ≠ none := by
  have hlength : (1 : ℚ) ≤ s.length := by exact_mod_cast List.length_pos_iff.2 hne
  have hshare : p * (s.length - 1) ≤ 100 * (s.length - 1) :=
    mul_le_mul_of_nonneg_right hle (sub_nonneg.2 hlength)
  rw [ne_eq, percentile?_eq_none_iff hne]
  rintro ⟨-, hpast⟩
  linarith

end LoopGauge.Statistics
