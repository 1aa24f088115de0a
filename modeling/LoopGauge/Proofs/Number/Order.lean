import LoopGauge.Proofs.Number.Shortest

/-!
# The total order of bit patterns

Every two patterns compare, and patterns at the same place are the same pattern. Negative NaNs stand
below all other patterns and positive ones above them; between the two the order is that of the
numbers, with `-0.0` before `0.0`.

## Main statements

* `Binary64.totalLe_antisymm`: patterns at the same place are the same.
* `Binary64.isNaN_of_totalLe_low`, `Binary64.isNaN_of_totalLe_high`: where NaNs stand.
* `Binary64.le_of_totalLe`: between them the order is that of the numbers.
-/

namespace LoopGauge.Number.Binary64

variable {x y z : Binary64}

theorem toNat_bits (x : Binary64) :
    x.bits.toNat = (if x.negative then twoTo 63 else 0) + x.pattern := by
  have hword : x.bits.toNat < 2 * twoTo 63 := x.bits.toNat_lt
  rw [negative, pattern]
  by_cases hsign : twoTo 63 ≤ x.bits.toNat
  · rw [if_pos (decide_eq_true hsign), Nat.mod_eq_sub_mod hsign, Nat.mod_eq_of_lt (by omega)]
    omega
  · rw [if_neg (by simpa using hsign), Nat.mod_eq_of_lt (by omega), Nat.zero_add]

/-- A pattern is told by its place: places below zero are those of negative patterns. -/
theorem orderKey_injective (h : x.orderKey = y.orderKey) : x = y := by
  have hbits : x.bits.toNat = y.bits.toNat := by
    rw [orderKey, orderKey] at h
    rw [x.toNat_bits, y.toNat_bits]
    by_cases hx : x.negative <;> by_cases hy : y.negative
    · rw [if_pos hx, if_pos hy] at h ⊢
      omega
    · rw [if_pos hx, if_neg hy] at h
      omega
    · rw [if_neg hx, if_pos hy] at h
      omega
    · rw [if_neg hx, if_neg hy] at h ⊢
      omega
  cases x
  cases y
  exact congrArg mk (UInt64.toNat_inj.1 hbits)

theorem totalLe_iff : x.totalLe y ↔ x.orderKey ≤ y.orderKey := decide_eq_true_iff

theorem totalLe_trans (hxy : x.totalLe y) (hyz : y.totalLe z) : x.totalLe z :=
  totalLe_iff.2 (Int.le_trans (totalLe_iff.1 hxy) (totalLe_iff.1 hyz))

theorem totalLe_total (x y : Binary64) : x.totalLe y ∨ y.totalLe x := by
  rw [totalLe_iff, totalLe_iff]
  exact Int.le_total _ _

theorem totalLe_antisymm (hxy : x.totalLe y) (hyx : y.totalLe x) : x = y :=
  orderKey_injective (Int.le_antisymm (totalLe_iff.1 hxy) (totalLe_iff.1 hyx))

/-- Below a negative pattern there are only negative ones, of no smaller magnitude. -/
theorem totalLe_low (h : x.totalLe y) (hy : y.negative) :
    x.negative ∧ y.pattern ≤ x.pattern := by
  rw [totalLe_iff, orderKey, orderKey, if_pos hy] at h
  split at h
  next hx => exact ⟨hx, by omega⟩
  next => omega

theorem totalLe_high (h : x.totalLe y) (hx : ¬x.negative) :
    ¬y.negative ∧ x.pattern ≤ y.pattern := by
  rw [totalLe_iff, orderKey, orderKey, if_neg hx] at h
  split at h
  next => omega
  next hy => exact ⟨hy, by omega⟩

theorem isNaN_iff : x.isNaN ↔ infinityPattern < x.pattern := decide_eq_true_iff

theorem isNaN_of_totalLe_low (h : x.totalLe y) (hnan : y.isNaN) (hy : y.negative) :
    x.isNaN ∧ x.negative := by
  obtain ⟨hx, hle⟩ := totalLe_low h hy
  exact ⟨isNaN_iff.2 (Nat.lt_of_lt_of_le (isNaN_iff.1 hnan) hle), hx⟩

theorem isNaN_of_totalLe_high (h : x.totalLe y) (hnan : x.isNaN) (hx : ¬x.negative) :
    y.isNaN ∧ ¬y.negative := by
  obtain ⟨hy, hle⟩ := totalLe_high h hx
  exact ⟨isNaN_iff.2 (Nat.lt_of_lt_of_le (isNaN_iff.1 hnan) hle), hy⟩

/-- A higher binade starts where the lower one ends. -/
theorem twice_twoTo_le {m n : Nat} (hm : m ≠ 0) (h : m < n) :
    2 * twoTo (m - 1) ≤ twoTo (n - 1) := by
  have hexponent : m - 1 + 1 = m := Nat.succ_pred_eq_of_ne_zero hm
  calc 2 * twoTo (m - 1) = twoTo (m - 1 + 1) := (Nat.pow_succ' ..).symm
    _ ≤ twoTo (n - 1) := Nat.pow_le_pow_right (by decide) (by omega)

theorem unitsOfPattern_mono {m n : Nat} (h : m ≤ n) : unitsOfPattern m ≤ unitsOfPattern n := by
  have hdiv : m / twoTo 52 ≤ n / twoTo 52 := Nat.div_le_div_right h
  have hfraction : m % twoTo 52 < twoTo 52 := Nat.mod_lt m (twoTo_pos 52)
  have hsame : m / twoTo 52 = n / twoTo 52 → m % twoTo 52 ≤ n % twoTo 52 := by
    intro heq
    have hm := Nat.div_add_mod m (twoTo 52)
    have hn := Nat.div_add_mod n (twoTo 52)
    rw [heq] at hm
    omega
  rw [unitsOfPattern, unitsOfPattern]
  generalize m / twoTo 52 = e, m % twoTo 52 = f, n / twoTo 52 = e', n % twoTo 52 = f' at *
  -- In one binade the fractions decide, otherwise the binades do.
  obtain rfl | hlt := Nat.eq_or_lt_of_le hdiv
  · split
    · exact hsame rfl
    · exact Nat.mul_le_mul_right _ (Nat.add_le_add_left (hsame rfl) _)
  · rw [if_neg (Nat.ne_zero_of_lt hlt)]
    split
    next =>
      calc f ≤ twoTo 52 + f' := by omega
        _ ≤ (twoTo 52 + f') * twoTo (e' - 1) := Nat.le_mul_of_pos_right _ (twoTo_pos _)
    next hne =>
      calc (twoTo 52 + f) * twoTo (e - 1)
          ≤ twoTo 52 * 2 * twoTo (e - 1) := Nat.mul_le_mul_right _ (by omega)
        _ = twoTo 52 * (2 * twoTo (e - 1)) := Nat.mul_assoc ..
        _ ≤ twoTo 52 * twoTo (e' - 1) := Nat.mul_le_mul_left _ (twice_twoTo_le hne hlt)
        _ ≤ (twoTo 52 + f') * twoTo (e' - 1) := Nat.mul_le_mul_right _ (Nat.le_add_right _ _)

theorem signedUnits_le_of_totalLe (h : x.totalLe y) : x.signedUnits ≤ y.signedUnits := by
  rw [signedUnits, signedUnits]
  by_cases hy : y.negative
  · obtain ⟨hx, hle⟩ := totalLe_low h hy
    have hunits : y.units ≤ x.units := unitsOfPattern_mono hle
    rw [if_pos hx, if_pos hy]
    omega
  · rw [if_neg hy]
    by_cases hx : x.negative
    · rw [if_pos hx]
      omega
    · have hunits : x.units ≤ y.units := unitsOfPattern_mono (totalLe_high h hx).2
      rw [if_neg hx]
      omega

/-- Between numbers the order of patterns is that of the numbers. -/
theorem le_of_totalLe (h : x.totalLe y) (hx : ¬x.isNaN) (hy : ¬y.isNaN) : x.le y := by
  simp [le, hx, hy, signedUnits_le_of_totalLe h]

end LoopGauge.Number.Binary64
