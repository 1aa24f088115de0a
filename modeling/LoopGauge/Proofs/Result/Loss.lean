import LoopGauge.Proofs.Number.Exact
import LoopGauge.Result.Latency
import Mathlib.Algebra.Order.Field.Basic
import Mathlib.Tactic.Linarith
import Mathlib.Tactic.Positivity

/-!
# The share of lost rounds

The rounds that were tried are counted in a word: those with a sample and those without are added
up. As long as the sum fits into a word the share of the lost rounds is a percentage, and it grows
with them. A build that checks its sums stops at one that does not fit. In a build that does not,
such a sum starts again at zero, and the share is then no percentage of anything.

## Main definitions

* `LatencyResult.CountFits`: the rounds that were tried can be counted in a word.
* `LatencyResult.exactLoss?`, `LatencyResult.exactLoss`: the share of lost rounds, without rounding,
  in a build that checks its sums and in one that does not.
* `LatencyResult.IsPercentage`: a share of lost rounds is a percentage.

## Main statements

* `LatencyResult.loss_of_counted`: the share is a percentage exactly if the count fits.
-/

namespace LoopGauge.LatencyResult

open Number

/-- Without rounding, a share of all is that share of a hundred. -/
theorem lossShare_exact (root : ℚ → ℚ) (lost attempted : Nat) :
    lossShare (Arithmetic.exact root) lost attempted =
      if attempted = 0 then (0 : ℚ) else 100 * (lost : ℚ) / (attempted : ℚ) := by
  have hshare : (lost : ℚ) / attempted * 100 = 100 * lost / attempted := by
    rw [div_mul_eq_mul_div, mul_comm]
  simp only [lossShare, Arithmetic.ofNat_exact, Nat.cast_zero, ← hshare]
  rfl

/-- The rounds that were tried can be counted in a word. -/
def CountFits (r : LatencyResult) : Prop := r.sampleCount.toNat + r.lostRounds.toNat < 2 ^ 64

instance (r : LatencyResult) : Decidable r.CountFits := inferInstanceAs (Decidable (_ < _))

/-- The share of lost rounds without rounding, in a build that does not check its sums. -/
def exactLoss (r : LatencyResult) : ℚ :=
  lossShare (Arithmetic.exact id) r.lostRounds.toNat r.attempted.toNat

/-- The share of lost rounds without rounding, unless the build stops at their sum. -/
def exactLoss? (r : LatencyResult) : Option ℚ :=
  r.attempted?.map fun attempted =>
    lossShare (Arithmetic.exact id) r.lostRounds.toNat attempted.toNat

/-- A share of lost rounds is a percentage: between zero and a hundred, and zero exactly if no round
was lost. -/
def IsPercentage (r : LatencyResult) (share : ℚ) : Prop :=
  0 ≤ share ∧ share ≤ 100 ∧ (share = 0 ↔ r.lostRounds = 0)

variable {r r' : LatencyResult} {x : ℚ}

theorem toNat_attempted (r : LatencyResult) :
    r.attempted.toNat = (r.sampleCount.toNat + r.lostRounds.toNat) % 2 ^ 64 :=
  UInt64.toNat_add ..

theorem toNat_attempted_eq_iff :
    r.attempted.toNat = r.sampleCount.toNat + r.lostRounds.toNat ↔ r.CountFits := by
  rw [toNat_attempted, CountFits]
  omega

theorem attempted?_of_countFits (h : r.CountFits) : r.attempted? = some r.attempted := if_pos h

theorem attempted?_of_not_countFits (h : ¬r.CountFits) : r.attempted? = none := if_neg h

theorem attempted?_eq_some_iff {n : UInt64} :
    r.attempted? = some n ↔ n.toNat = r.sampleCount.toNat + r.lostRounds.toNat := by
  by_cases h : r.CountFits
  · rw [attempted?_of_countFits h, Option.some_inj, ← toNat_attempted_eq_iff.2 h,
      UInt64.toNat_inj, eq_comm]
  · rw [attempted?_of_not_countFits h]
    have hn := n.toNat_lt
    rw [CountFits] at h
    exact iff_of_false nofun (by omega)

theorem exactLoss?_eq_some_iff : r.exactLoss? = some x ↔ r.CountFits ∧ r.exactLoss = x := by
  rw [exactLoss?]
  by_cases h : r.CountFits
  · rw [attempted?_of_countFits h, Option.map_some, Option.some_inj, exactLoss, and_iff_right h]
  · rw [attempted?_of_not_countFits h]
    exact iff_of_false nofun fun hfits => h hfits.1

/-- A build that checks its sums stops exactly at a sum that does not fit. -/
theorem lossPercentage?_eq_none_iff : r.lossPercentage? = none ↔ ¬r.CountFits := by
  rw [lossPercentage?, Option.map_eq_none_iff]
  by_cases h : r.CountFits
  · rw [attempted?_of_countFits h]
    exact iff_of_false nofun (not_not.2 h)
  · exact iff_of_true (attempted?_of_not_countFits h) h

theorem exactLoss_eq_zero (h : r.attempted.toNat = 0) : r.exactLoss = 0 := by
  rw [exactLoss, lossShare_exact, if_pos h]

theorem exactLoss_eq_div (h : r.attempted.toNat ≠ 0) :
    r.exactLoss = 100 * (r.lostRounds.toNat : ℚ) / (r.attempted.toNat : ℚ) := by
  rw [exactLoss, lossShare_exact, if_neg h]

theorem toNat_lostRounds_eq_zero_iff : r.lostRounds.toNat = 0 ↔ r.lostRounds = 0 :=
  UInt64.toNat_inj (b := 0)

theorem CountFits.isPercentage (h : r.CountFits) : r.IsPercentage r.exactLoss := by
  have hsum := toNat_attempted_eq_iff.2 h
  rw [IsPercentage, ← toNat_lostRounds_eq_zero_iff]
  by_cases hzero : r.attempted.toNat = 0
  · rw [exactLoss_eq_zero hzero]
    have hlost : r.lostRounds.toNat = 0 := by omega
    exact ⟨le_rfl, by norm_num, iff_of_true rfl hlost⟩
  · have hpos : (0 : ℚ) < r.attempted.toNat := by exact_mod_cast Nat.pos_of_ne_zero hzero
    have hle : (r.lostRounds.toNat : ℚ) ≤ r.attempted.toNat := by
      exact_mod_cast hsum ▸ Nat.le_add_left ..
    rw [exactLoss_eq_div hzero]
    refine ⟨by positivity, ?_, ?_⟩
    · rw [div_le_iff₀ hpos]
      linarith
    · rw [div_eq_zero_iff, or_iff_left hpos.ne', mul_eq_zero, or_iff_right (by norm_num),
        Nat.cast_eq_zero]

/-- A sum that starts again at zero is smaller than the rounds that were lost. -/
theorem exactLoss_of_not_countFits (h : ¬r.CountFits) :
    r.lostRounds ≠ 0 ∧ (r.exactLoss = 0 ∨ 100 < r.exactLoss) := by
  have hcount := r.sampleCount.toNat_lt
  have hlost := r.lostRounds.toNat_lt
  have hsum := toNat_attempted r
  rw [CountFits] at h
  have hless : r.attempted.toNat < r.lostRounds.toNat := by omega
  refine ⟨fun hzero => ?_, ?_⟩
  · rw [toNat_lostRounds_eq_zero_iff.2 hzero] at hless
    omega
  · by_cases hzero : r.attempted.toNat = 0
    · exact .inl (exactLoss_eq_zero hzero)
    · have hpos : (0 : ℚ) < r.attempted.toNat := by exact_mod_cast Nat.pos_of_ne_zero hzero
      have hgreater : (r.attempted.toNat : ℚ) < r.lostRounds.toNat := by exact_mod_cast hless
      right
      rw [exactLoss_eq_div hzero, lt_div_iff₀ hpos]
      linarith

/-- With as many samples and more rounds lost, the share of those is no smaller. -/
theorem CountFits.exactLoss_mono (h : r'.CountFits) (hcount : r'.sampleCount = r.sampleCount)
    (hlost : r.lostRounds ≤ r'.lostRounds) : r.exactLoss ≤ r'.exactLoss := by
  rw [UInt64.le_iff_toNat_le] at hlost
  have hsum' := toNat_attempted_eq_iff.2 h
  rw [CountFits] at h
  rw [hcount] at h hsum'
  have hfits : r.CountFits := by
    rw [CountFits]
    omega
  have hsum := toNat_attempted_eq_iff.2 hfits
  by_cases hzero : r.attempted.toNat = 0
  · rw [exactLoss_eq_zero hzero, exactLoss, lossShare_exact]
    split
    · exact le_rfl
    · positivity
  · have hzero' : r'.attempted.toNat ≠ 0 := by omega
    have hpos : (0 : ℚ) < r.attempted.toNat := by exact_mod_cast Nat.pos_of_ne_zero hzero
    have hpos' : (0 : ℚ) < r'.attempted.toNat := by exact_mod_cast Nat.pos_of_ne_zero hzero'
    rw [exactLoss_eq_div hzero, exactLoss_eq_div hzero', div_le_div_iff₀ hpos hpos', hsum, hsum']
    -- Both products contain that of the lost rounds; what is left is a product with the samples.
    have hsamples : (r.lostRounds.toNat : ℚ) * r.sampleCount.toNat ≤
        r'.lostRounds.toNat * r.sampleCount.toNat := by
      exact_mod_cast Nat.mul_le_mul_right _ hlost
    push_cast
    linarith

theorem isPercentage_exactLoss_iff : r.IsPercentage r.exactLoss ↔ r.CountFits := by
  refine ⟨?_, CountFits.isPercentage⟩
  rintro ⟨-, hle, hzero⟩
  by_contra h
  obtain ⟨hlost, hnone | hmore⟩ := exactLoss_of_not_countFits h
  · exact hlost (hzero.1 hnone)
  · exact absurd hle (not_le.2 hmore)

/-- **The share of lost rounds is a percentage exactly if the count fits.** The rounds that were
tried are the samples and the lost rounds exactly if these can be counted in a word.

A build that checks its sums stops at all others. The shares that it finds are percentages, and with
as many samples they grow with the lost rounds. A build that does not check its sums finds the same
then, and otherwise a share that is no percentage. -/
theorem loss_of_counted (r : LatencyResult) :
    let tried := r.sampleCount.toNat + r.lostRounds.toNat
    (r.lossPercentage? = none ↔ 2 ^ 64 ≤ tried) ∧
    (∀ n, r.attempted? = some n ↔ n.toNat = tried) ∧
    (∀ share, r.exactLoss? = some share → r.IsPercentage share ∧
      ∀ (r' : LatencyResult) (share' : ℚ), r'.sampleCount = r.sampleCount →
        r.lostRounds ≤ r'.lostRounds → r'.exactLoss? = some share' → share ≤ share') ∧
    (tried < 2 ^ 64 →
      r.lossPercentage? = some r.lossPercentage ∧ r.exactLoss? = some r.exactLoss) ∧
    (r.attempted.toNat = tried ↔ tried < 2 ^ 64) ∧
    (r.IsPercentage r.exactLoss ↔ tried < 2 ^ 64) := by
  intro tried
  refine ⟨?_, fun n => attempted?_eq_some_iff, ?_, ?_, toNat_attempted_eq_iff,
    isPercentage_exactLoss_iff⟩
  · exact lossPercentage?_eq_none_iff.trans Nat.not_lt
  · intro share hshare
    obtain ⟨hfits, rfl⟩ := exactLoss?_eq_some_iff.1 hshare
    refine ⟨hfits.isPercentage, fun r' share' hcount hlost hshare' => ?_⟩
    obtain ⟨hfits', rfl⟩ := exactLoss?_eq_some_iff.1 hshare'
    exact hfits'.exactLoss_mono hcount hlost
  · intro hfits
    refine ⟨?_, exactLoss?_eq_some_iff.2 ⟨hfits, rfl⟩⟩
    rw [lossPercentage?, attempted?_of_countFits hfits]
    rfl

/-- The most rounds that can be counted, all of them lost but one. -/
theorem loss_of_counted_most :
    let few : LatencyResult := { sampleCount := 1, lostRounds := 3 }
    let most : LatencyResult := { sampleCount := 1, lostRounds := 18446744073709551614 }
    few.exactLoss? = some 75 ∧ most.lossPercentage? ≠ none ∧
      ∃ share, most.exactLoss? = some share ∧ 75 ≤ share ∧ share ≤ 100 ∧ share ≠ 0 := by
  intro few most
  obtain ⟨-, -, hsound, hfits, -⟩ := loss_of_counted few
  obtain ⟨hstops, -, hsound', hfits', -⟩ := loss_of_counted most
  have hshare : few.exactLoss = 75 := by
    rw [exactLoss_eq_div (by decide), show few.attempted.toNat = 4 by decide,
      show few.lostRounds.toNat = 3 by decide]
    norm_num
  obtain ⟨-, hfew⟩ := hfits (by decide)
  rw [hshare] at hfew
  obtain ⟨-, hmost⟩ := hfits' (by decide)
  obtain ⟨⟨-, hle, hzero⟩, -⟩ := hsound' _ hmost
  have hmono := (hsound _ hfew).2 most _ rfl (by decide) hmost
  exact ⟨hfew, mt hstops.1 (by decide), _, hmost, hmono, hle,
    fun h => absurd (hzero.1 h) (by decide)⟩

/-- Two rounds were lost beside as many samples as can be counted. One build stops there; in the
other, twice as many were lost as were tried. -/
theorem loss_exceeds_hundred :
    let r : LatencyResult := { sampleCount := 18446744073709551615, lostRounds := 2 }
    r.attempted? = none ∧ r.lossPercentage? = none ∧ r.attempted = 1 ∧ r.exactLoss = 200 ∧
      r.lossPercentage = 200 ∧ ¬r.IsPercentage r.exactLoss := by
  intro r
  have hloss : r.exactLoss = 200 := by
    rw [exactLoss_eq_div (by decide), show r.attempted.toNat = 1 by decide,
      show r.lostRounds.toNat = 2 by decide]
    norm_num
  refine ⟨by decide, by decide, by decide, hloss, by decide +kernel, ?_⟩
  rw [hloss]
  rintro ⟨-, hle, -⟩
  norm_num at hle

end LoopGauge.LatencyResult
