import LoopGauge.Number.Shortest
import LoopGauge.Proofs.Number.Digits
import LoopGauge.Proofs.Number.Rounding

/-!
# Digits of shortest number texts

The digits of a finite double that is not zero are there, are digits, and start with a zero only
where the number is below ten, so a zero is never followed by further digits before the point.

## Main definitions

* `Scientific.Proper`: digits from which a numeral can be made.

## Main statements

* `Binary64.proper_shortest`: the shortest digits of a double are such.
-/

namespace LoopGauge.Number

/-- Digits from which a numeral can be made: where the first is a zero, the number is below ten. -/
structure Scientific.Proper (s : Scientific) : Prop where
  ne_nil : s.digits ≠ []
  isDigit : ∀ c ∈ s.digits, c.isDigit
  small : s.digits.head? = some '0' → s.exponent ≤ 0

namespace Binary64

theorem trimZeros_ne_nil (ds : List Char) : trimZeros ds ≠ [] := by
  unfold trimZeros
  split
  · simp
  next hne => exact hne

theorem mem_of_mem_trimZeros {ds : List Char} {c : Char} (h : c ∈ trimZeros ds) :
    c ∈ ds ∨ c = '0' := by
  unfold trimZeros at h
  split at h
  · exact .inr (List.mem_singleton.1 h)
  · exact .inl ((List.rdropWhile_prefix (· == '0') ds).mem h)

theorem head?_trimZeros {c : Char} (hc : c ≠ '0') (cs : List Char) :
    (trimZeros (c :: cs)).head? = some c := by
  unfold trimZeros
  split
  next hnil =>
    have hall := List.rdropWhile_eq_nil_iff.1 hnil c List.mem_cons_self
    exact absurd (eq_of_beq hall) hc
  next kept hne =>
    obtain ⟨rest, hrest⟩ := List.rdropWhile_prefix (· == '0') (c :: cs)
    obtain ⟨d, ds, hkept⟩ := List.exists_cons_of_ne_nil hne
    change _ = d :: ds at hkept
    rw [List.rdropWhile, hkept] at hrest
    rw [hkept, (List.cons.inj hrest).1]
    rfl

/-- The digits of a number of steps of a power of ten. -/
theorem proper_scientificOf {d : Nat} {step : Int} (h : d ≠ 0 ∨ step ≤ 0) :
    (scientificOf d step).Proper where
  ne_nil := trimZeros_ne_nil _
  isDigit c hc := by
    obtain hc | rfl := mem_of_mem_trimZeros hc
    · exact isDigit_of_mem_digits hc
    · decide
  small hhead := by
    obtain rfl | hd := Nat.eq_zero_or_pos d
    · have hstep := h.resolve_left (by simp)
      have hone : (digits 0).length = 1 := rfl
      rw [scientificOf, hone]
      simpa using hstep
    · obtain ⟨c, cs, hcs⟩ := List.exists_cons_of_ne_nil (digits_ne_nil d)
      have hc : c ≠ '0' := by
        rintro rfl
        exact head?_digits_ne hd (hcs ▸ rfl)
      rw [scientificOf, hcs, head?_trimZeros hc] at hhead
      exact absurd (Option.some.inj hhead) hc

variable {pattern : Nat}

theorem Grid.not_readsBack_zero {g : Grid} (hg : 0 < g.den) (h : unitsOfPattern pattern ≠ 0) :
    ¬g.readsBack pattern 0 := by
  have hlow : 0 < (unitsOfPattern (pattern - 1) + unitsOfPattern pattern) * g.den :=
    Nat.mul_pos (by omega) hg
  rw [readsBack]
  split
  · simp only [Nat.zero_mul, Nat.mul_zero, Bool.and_eq_true, decide_eq_true_eq, not_and]
    omega
  · simp only [Nat.zero_mul, Nat.mul_zero, Bool.and_eq_true, decide_eq_true_eq, not_and]
    omega

/-- Zero never reads back as another number. -/
theorem Grid.candidate_ne_zero {g : Grid} (hg : 0 < g.den) (h : unitsOfPattern pattern ≠ 0)
    {d : Nat} (hd : g.candidate pattern = some d) : d ≠ 0 := by
  rw [candidate] at hd
  have hbelow : g.readsBack pattern (unitsOfPattern pattern * g.den / g.num) →
      unitsOfPattern pattern * g.den / g.num ≠ 0 := by
    intro hreads hzero
    rw [hzero] at hreads
    exact not_readsBack_zero hg h hreads
  split at hd
  next hboth =>
    rw [Bool.and_eq_true] at hboth
    have hle := le_roundHalfEven (unitsOfPattern pattern * g.den) g.num
    have hpos := Nat.pos_of_ne_zero (hbelow hboth.1)
    obtain rfl := Option.some.inj hd
    exact (Nat.lt_of_lt_of_le hpos hle).ne'
  · split at hd
    next hreads =>
      obtain rfl := Option.some.inj hd
      exact hbelow hreads
    · split at hd
      · obtain rfl := Option.some.inj hd
        exact Nat.succ_ne_zero _
      · cases hd

theorem den_gridOf_pos (step : Int) : 0 < (gridOf step).den := by
  rw [gridOf]
  split
  · exact tenTo_pos _
  · exact Nat.one_pos

/-- A number with so many digits is no smaller than the power of ten that it starts at. -/
theorem le_of_leadingExponent {units : Nat} {n : Nat} (h : (n + 1 : Int) ≤ leadingExponent units) :
    unitsPerOne * tenTo (n + 1) ≤ units := by
  have hlength : ¬(digits (units * tenTo 400 / unitsPerOne)).length ≤ n + 401 := by
    rw [leadingExponent] at h
    omega
  rw [digits, Nat.length_toDigits_le_iff (by decide) (by omega), Nat.not_lt] at hlength
  have hpower : tenTo (n + 1 + 400) ≤ units * tenTo 400 / unitsPerOne := hlength
  rw [tenTo_add, Nat.le_div_iff_mul_le unitsPerOne_pos] at hpower
  refine Nat.le_of_mul_le_mul_right ?_ (tenTo_pos 400)
  calc unitsPerOne * tenTo (n + 1) * tenTo 400
      = tenTo (n + 1) * tenTo 400 * unitsPerOne := by
        rw [Nat.mul_comm unitsPerOne, Nat.mul_right_comm]
    _ ≤ units * tenTo 400 := hpower

/-- Where the last grid is one of whole numbers, the number is no smaller than one of its steps. -/
theorem roundHalfEven_ne_zero {step : Int} (hpos : 1 ≤ step)
    (hstep : step ≤ leadingExponent (unitsOfPattern pattern)) :
    roundHalfEven (unitsOfPattern pattern * (gridOf step).den) (gridOf step).num ≠ 0 := by
  obtain ⟨n, rfl⟩ : ∃ n : Nat, step = n + 1 := ⟨(step - 1).toNat, by omega⟩
  have hgrid : gridOf (n + 1 : Int) = ⟨unitsPerOne * tenTo (n + 1), 1⟩ := if_neg (by omega)
  have hle := le_of_leadingExponent hstep
  have hround := le_roundHalfEven (unitsOfPattern pattern) (unitsPerOne * tenTo (n + 1))
  have hdiv := Nat.div_pos hle (Nat.mul_pos unitsPerOne_pos (tenTo_pos _))
  rw [hgrid, Nat.mul_one]
  exact (Nat.lt_of_lt_of_le hdiv hround).ne'

/-- Whichever grid the search ends with, its digits are proper. -/
theorem proper_search (h : unitsOfPattern pattern ≠ 0) (tries : Nat) {count : Nat}
    (hcount : 1 ≤ count) :
    (search pattern (leadingExponent (unitsOfPattern pattern)) count tries).Proper := by
  induction tries generalizing count with
  | zero =>
    refine proper_scientificOf ?_
    by_cases hpos : 1 ≤ leadingExponent (unitsOfPattern pattern) - count + 1
    · exact .inl (roundHalfEven_ne_zero hpos (by omega))
    · exact .inr (by omega)
  | succ tries ih =>
    rw [search]
    split
    next d hd => exact proper_scientificOf (.inl (Grid.candidate_ne_zero (den_gridOf_pos _) h hd))
    next => exact ih (by omega)

/-- The digits of a double that is not zero are proper. -/
theorem proper_shortest {x : Binary64} (h : x.units ≠ 0) : x.shortest.Proper :=
  proper_search h 17 (Nat.le_refl 1)

end Binary64

end LoopGauge.Number
