import LoopGauge.Number.Fixed
import LoopGauge.Number.Arithmetic
import Mathlib.Tactic.Ring

/-!
# What rounding keeps

Rounding to a whole number errs by a half at most and keeps the order. Doubles hold every whole
number up to `2 ^ 53` and its quotient by a power of two exactly, so for such a quotient only the
numeral is rounded.

## Main definitions

* `Binary64.HasUnits`: a double is a number of units, and positive.

## Main statements

* `roundHalfEven_error`, `roundHalfEven_mono`: the error, and the order.
* `roundHalfEven_lt_iff`: what is rounded up to an even number.
* `Binary64.hasUnits_ofNat`, `Binary64.HasUnits.div`: what doubles hold exactly.
* `Binary64.HasUnits.fixed`: the numeral of a quotient is rounded once.
-/

namespace LoopGauge.Number

theorem twoTo_pos (n : Nat) : 0 < twoTo n := Nat.pow_pos (by decide)

theorem tenTo_pos (n : Nat) : 0 < tenTo n := Nat.pow_pos (by decide)

theorem twoTo_add (m n : Nat) : twoTo (m + n) = twoTo m * twoTo n := Nat.pow_add 2 m n

theorem tenTo_add (m n : Nat) : tenTo (m + n) = tenTo m * tenTo n := Nat.pow_add 10 m n

section Whole

variable {a b c d k : Nat}

/-- The whole part, or one more. -/
theorem roundHalfEven_cases (a d : Nat) :
    roundHalfEven a d = a / d ∧ 2 * (a % d) ≤ d ∨
      roundHalfEven a d = a / d + 1 ∧ d ≤ 2 * (a % d) := by
  rw [roundHalfEven]
  split
  · exact .inl ⟨rfl, by omega⟩
  · split
    · exact .inr ⟨rfl, by omega⟩
    · obtain heven | hodd := Nat.mod_two_eq_zero_or_one (a / d)
      · exact .inl ⟨by omega, by omega⟩
      · exact .inr ⟨by omega, by omega⟩

theorem le_roundHalfEven (a d : Nat) : a / d ≤ roundHalfEven a d := by
  obtain ⟨heq, -⟩ | ⟨heq, -⟩ := roundHalfEven_cases a d <;> omega

/-- The error is half of the divisor at most. -/
theorem roundHalfEven_error (hd : 0 < d) (a : Nat) :
    2 * a ≤ 2 * (roundHalfEven a d * d) + d ∧ 2 * (roundHalfEven a d * d) ≤ 2 * a + d := by
  have hsplit : a / d * d + a % d = a := Nat.div_add_mod' a d
  have hnext : (a / d + 1) * d = a / d * d + d := Nat.succ_mul _ _
  have hrest := Nat.mod_lt a hd
  obtain ⟨heq, hhalf⟩ | ⟨heq, hhalf⟩ := roundHalfEven_cases a d <;> rw [heq] <;> omega

/-- What is half a step below an even number, or more, is rounded up to it. -/
theorem roundHalfEven_lt_iff (hd : 0 < d) (hk : k % 2 = 0) :
    roundHalfEven a d < k ↔ 2 * a + d < 2 * (k * d) := by
  have hsplit : a / d * d + a % d = a := Nat.div_add_mod' a d
  have hnext : (a / d + 1) * d = a / d * d + d := Nat.succ_mul _ _
  have hrest := Nat.mod_lt a hd
  obtain hlow | heq | hhigh : a / d + 1 < k ∨ a / d + 1 = k ∨ k ≤ a / d := by omega
  · have hle : (a / d + 2) * d ≤ k * d := Nat.mul_le_mul_right d hlow
    rw [Nat.add_mul] at hle
    obtain ⟨heq, -⟩ | ⟨heq, -⟩ := roundHalfEven_cases a d <;> omega
  · -- The number below is odd, so a half goes up.
    rw [← heq, hnext, roundHalfEven]
    split_ifs <;> omega
  · have hle : k * d ≤ a / d * d := Nat.mul_le_mul_right d hhigh
    have hround := le_roundHalfEven a d
    omega

theorem roundHalfEven_mono (h : a ≤ b) : roundHalfEven a d ≤ roundHalfEven b d := by
  have hb := le_roundHalfEven b d
  obtain heq | hlt := Nat.eq_or_lt_of_le (Nat.div_le_div_right (c := d) h)
  · have hrest : a % d ≤ b % d := by
      have ha := Nat.div_add_mod a d
      have hb := Nat.div_add_mod b d
      rw [heq] at ha
      omega
    rw [roundHalfEven, roundHalfEven, heq]
    split_ifs <;> omega
  · obtain ⟨heq, -⟩ | ⟨heq, -⟩ := roundHalfEven_cases a d <;> omega

theorem roundHalfEven_mul_self (hd : 0 < d) (k : Nat) : roundHalfEven (k * d) d = k := by
  rw [roundHalfEven, Nat.mul_mod_left, Nat.mul_div_cancel k hd]
  exact if_pos hd

/-- Only the ratio matters. -/
theorem roundHalfEven_mul_mul_right (hc : 0 < c) (a d : Nat) :
    roundHalfEven (a * c) (d * c) = roundHalfEven a d := by
  have hbelow : 2 * (a % d * c) < d * c ↔ 2 * (a % d) < d := by
    rw [← Nat.mul_assoc, Nat.mul_lt_mul_right hc]
  have habove : d * c < 2 * (a % d * c) ↔ d < 2 * (a % d) := by
    rw [← Nat.mul_assoc, Nat.mul_lt_mul_right hc]
  rw [roundHalfEven, roundHalfEven]
  simp only [Nat.mul_div_mul_right _ _ hc, Nat.mul_mod_mul_right, hbelow, habove]

end Whole

namespace Binary64

variable {x y : Binary64} {m n v w k e num den places : Nat}

theorem unitsPerOne_pos : 0 < unitsPerOne := twoTo_pos 1074

/-- A double is this number of units, and positive. -/
structure HasUnits (x : Binary64) (v : Nat) : Prop where
  positive : x.negative = false
  finite : x.pattern < infinityPattern
  units : x.units = v

/-- A pattern is a number of binades and a significand. -/
theorem unitsOfPattern_add (hm : m < twoTo 53) (he : e = 0 ∨ twoTo 52 ≤ m) :
    unitsOfPattern (e * twoTo 52 + m) = m * twoTo e := by
  have htwice : twoTo 53 = 2 * twoTo 52 := rfl
  have hpos := twoTo_pos 52
  rw [unitsOfPattern]
  by_cases hlow : m < twoTo 52
  · obtain rfl : e = 0 := by omega
    rw [Nat.zero_mul, Nat.zero_add, Nat.div_eq_of_lt hlow, Nat.mod_eq_of_lt hlow, if_pos rfl]
    exact (Nat.mul_one m).symm
  · obtain ⟨f, rfl⟩ := Nat.exists_eq_add_of_le (Nat.le_of_not_lt hlow)
    have hf : f < twoTo 52 := by omega
    have hsum : e * twoTo 52 + (twoTo 52 + f) = f + twoTo 52 * (e + 1) := by ring
    rw [hsum, Nat.add_mul_div_left _ _ hpos, Nat.add_mul_mod_self_left, Nat.div_eq_of_lt hf,
      Nat.mod_eq_of_lt hf, Nat.zero_add, if_neg (Nat.succ_ne_zero e), Nat.add_sub_cancel]

theorem log2_mul_twoTo_le {b : Nat} (hm : m < twoTo (b + 1)) (e : Nat) :
    Nat.log2 (m * twoTo e) ≤ b + e := by
  by_cases hzero : m * twoTo e = 0
  · rw [hzero]
    exact Nat.zero_le _
  · refine Nat.le_of_lt_succ ((Nat.log2_lt hzero).2 ?_)
    calc m * twoTo e < twoTo (b + 1) * twoTo e := Nat.mul_lt_mul_of_pos_right hm (twoTo_pos e)
      _ = twoTo (b + 1 + e) := (twoTo_add _ _).symm
      _ = 2 ^ (b + e + 1) := congrArg twoTo (Nat.add_right_comm b 1 e)

/-- A number of 53 bits and a power of two is a multiple of the unit of its binade. -/
theorem twoTo_dvd (hm : m ≤ twoTo 53) (e : Nat) :
    twoTo (Nat.log2 (m * twoTo e) - 52) ∣ m * twoTo e := by
  obtain rfl | hlt := Nat.eq_or_lt_of_le hm
  · rw [← twoTo_add]
    have hlog : Nat.log2 (twoTo (53 + e)) = 53 + e := Nat.log2_two_pow
    rw [hlog]
    exact Nat.pow_dvd_pow 2 (Nat.sub_le _ _)
  · have hlog := log2_mul_twoTo_le hlt e
    exact Nat.dvd_mul_left_of_dvd (Nat.pow_dvd_pow 2 (by omega)) m

/-- What is left of a number without its binade is a significand. -/
theorem significand_bounds {q : Nat} (hq : v = twoTo (Nat.log2 v - 52) * q) :
    q < twoTo 53 ∧ (Nat.log2 v - 52 = 0 ∨ twoTo 52 ≤ q) := by
  have hpos := twoTo_pos (Nat.log2 v - 52)
  constructor
  · refine Nat.lt_of_mul_lt_mul_left (a := twoTo (Nat.log2 v - 52)) ?_
    calc twoTo (Nat.log2 v - 52) * q = v := hq.symm
      _ < twoTo (Nat.log2 v + 1) := Nat.lt_log2_self
      _ ≤ twoTo (Nat.log2 v - 52 + 53) := Nat.pow_le_pow_right (by decide) (by omega)
      _ = twoTo (Nat.log2 v - 52) * twoTo 53 := twoTo_add _ _
  · by_cases hlow : Nat.log2 v ≤ 52
    · exact .inl (by omega)
    · have hne : v ≠ 0 := by
        rintro rfl
        exact hlow (by decide)
      refine .inr (Nat.le_of_mul_le_mul_left ?_ hpos)
      calc twoTo (Nat.log2 v - 52) * twoTo 52 = twoTo (Nat.log2 v - 52 + 52) := (twoTo_add _ _).symm
        _ = twoTo (Nat.log2 v) := by rw [Nat.sub_add_cancel (by omega)]
        _ ≤ v := Nat.log2_self_le hne
        _ = twoTo (Nat.log2 v - 52) * q := hq

theorem hasUnits_ofPattern {p : Nat} (hp : p < infinityPattern) :
    (ofPattern false p).HasUnits (unitsOfPattern p) := by
  have hbits : (ofPattern false p).bits.toNat = p := by
    have hword : infinityPattern < 2 ^ 64 := by decide
    rw [ofPattern, if_neg Bool.false_ne_true, Nat.zero_add]
    exact UInt64.toNat_ofNat_of_lt' (Nat.lt_trans hp hword)
  have hsmall : p < twoTo 63 := Nat.lt_trans hp (by decide)
  have hpattern : (ofPattern false p).pattern = p := by
    rw [pattern, hbits, Nat.mod_eq_of_lt hsmall]
  refine ⟨?_, hpattern.symm ▸ hp, congrArg unitsOfPattern hpattern⟩
  rw [negative, hbits]
  exact decide_eq_false (Nat.not_le_of_lt hsmall)

/-- Such a number is a double, if it is not too large. -/
theorem hasUnits_ofRatio (hm : m ≤ twoTo 53) (he : e ≤ 2044) (hden : 0 < den)
    (h : num = m * twoTo e * den) : (ofRatio false num den).HasUnits (m * twoTo e) := by
  obtain ⟨q, hq⟩ := twoTo_dvd hm e
  obtain ⟨hlow, hhigh⟩ := significand_bounds hq
  have hquotient : num / den = m * twoTo e := by rw [h, Nat.mul_div_cancel _ hden]
  have hlog : Nat.log2 (m * twoTo e) ≤ 53 + e :=
    log2_mul_twoTo_le (Nat.lt_of_le_of_lt hm (by decide)) e
  generalize hs : Nat.log2 (m * twoTo e) - 52 = s at hq hhigh
  -- The number is a multiple of the unit in its binade, so nothing is rounded away.
  have hround : roundHalfEven num (den * twoTo s) = q := by
    have hnum : num = q * (den * twoTo s) := by
      rw [h, hq]
      ring
    rw [hnum, roundHalfEven_mul_self (Nat.mul_pos hden (twoTo_pos s))]
  have hfinite : s * twoTo 52 + q < infinityPattern := by
    have htwice : twoTo 53 = 2 * twoTo 52 := rfl
    calc s * twoTo 52 + q < 2045 * twoTo 52 + twoTo 53 :=
          Nat.add_lt_add_of_le_of_lt (Nat.mul_le_mul_right _ (by omega)) hlow
      _ = infinityPattern := by decide
  have hpattern : patternOfRatio num den = s * twoTo 52 + q := by
    rw [patternOfRatio, hquotient, hs]
    simp only [hround, Nat.min_eq_left (Nat.le_of_lt hfinite)]
  rw [ofRatio, hpattern, hq, Nat.mul_comm (twoTo s), ← unitsOfPattern_add hlow hhigh]
  exact hasUnits_ofPattern hfinite

theorem hasUnits_ofNat (hn : n ≤ twoTo 53) : (ofNat n).HasUnits (n * unitsPerOne) :=
  hasUnits_ofRatio hn (by decide) Nat.one_pos (Nat.mul_one _).symm

namespace HasUnits

theorem not_isNaN (h : x.HasUnits v) : x.isNaN = false :=
  decide_eq_false (Nat.not_lt_of_gt h.finite)

theorem not_isInfinite (h : x.HasUnits v) : x.isInfinite = false :=
  beq_eq_false_iff_ne.2 (Nat.ne_of_lt h.finite)

theorem signedUnits (h : x.HasUnits v) : x.signedUnits = v := by
  rw [Binary64.signedUnits, h.positive, h.units]
  rfl

theorem le_iff (hx : x.HasUnits v) (hy : y.HasUnits w) : x.le y ↔ v ≤ w := by
  simp [le, hx.not_isNaN, hy.not_isNaN, hx.signedUnits, hy.signedUnits]

/-- A whole number over a power of two. -/
theorem div (hn : n ≤ twoTo 53) (hk : k ≤ 1074) (hx : x.HasUnits (n * unitsPerOne))
    (hy : y.HasUnits (twoTo k * unitsPerOne)) : (x / y).HasUnits (n * twoTo (1074 - k)) := by
  have hden : 0 < twoTo k * unitsPerOne := Nat.mul_pos (twoTo_pos k) unitsPerOne_pos
  have hratio : x / y = ofRatio false (n * unitsPerOne * unitsPerOne) (twoTo k * unitsPerOne) := by
    change Binary64.div x y = _
    simp [Binary64.div, hx.not_isNaN, hy.not_isNaN, hx.not_isInfinite, hy.not_isInfinite,
      hx.units, hy.units, hx.positive, hy.positive, Nat.ne_of_gt hden]
  rw [hratio]
  refine hasUnits_ofRatio hn (by omega) hden ?_
  have hone : unitsPerOne = twoTo (1074 - k) * twoTo k := by
    rw [← twoTo_add, Nat.sub_add_cancel hk, unitsPerOne]
  calc n * unitsPerOne * unitsPerOne
      = n * (twoTo (1074 - k) * twoTo k) * unitsPerOne := by rw [← hone]
    _ = n * twoTo (1074 - k) * (twoTo k * unitsPerOne) := by ring

/-- The numeral of such a quotient is rounded once, from its exact value. -/
theorem fixed (hk : k ≤ 1074) (h : x.HasUnits (n * twoTo (1074 - k))) (places : Nat) :
    x.fixed places =
      String.ofList (pointedDigits places (roundHalfEven (n * tenTo places) (twoTo k))) := by
  have hscaled : x.scaled places = roundHalfEven (n * tenTo places) (twoTo k) := by
    have hone : unitsPerOne = twoTo k * twoTo (1074 - k) := by
      rw [← twoTo_add, Nat.add_sub_cancel' hk, unitsPerOne]
    rw [scaled, h.units, hone, Nat.mul_right_comm, roundHalfEven_mul_mul_right (twoTo_pos _)]
  simp [Binary64.fixed, h.not_isNaN, h.not_isInfinite, h.positive, hscaled]

end HasUnits

end Binary64

end LoopGauge.Number
