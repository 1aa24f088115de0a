import LoopGauge.Number.Arithmetic
import Mathlib.Algebra.BigOperators.Group.List.Basic
import Mathlib.Algebra.Order.Floor.Semiring
import Mathlib.Data.Rat.Floor

/-!
# Exact arithmetic

The operations that the statistics of a sample use, on rational numbers and without rounding. Roots
are not rational, so what a root is stays open.

## Main definitions

* `Arithmetic.exact`: these operations.
* `Arithmetic.upTo`: operations whose indices go no further than a bound.
-/

namespace LoopGauge.Number.Arithmetic

/-- The operations on rational numbers. -/
def exact (root : ℚ → ℚ) : Arithmetic ℚ where
  ratio num den := num / den
  emptySum := 0
  add x y := x + y
  sub x y := x - y
  mul x y := x * y
  div x y := x / y
  sqrt := root
  min x y := Min.min x y
  floorIndex x := ⌊x⌋₊
  ceilIndex x := ⌈x⌉₊

variable {root : ℚ → ℚ}

@[simp]
theorem ratio_exact (num den : Nat) : (exact root).ratio num den = num / den := rfl

@[simp]
theorem ofNat_exact (n : Nat) : (exact root).ofNat n = n := by simp [ofNat]

@[simp]
theorem sum_exact (xs : List ℚ) : (exact root).sum xs = xs.sum := List.sum_eq_foldl.symm

/-- The same operations with indices that go no further than `limit`, as those in a word do. -/
def upTo {α : Type} (A : Arithmetic α) (limit : Nat) : Arithmetic α :=
  { A with
    floorIndex := fun x => Nat.min (A.floorIndex x) limit
    ceilIndex := fun x => Nat.min (A.ceilIndex x) limit }

end LoopGauge.Number.Arithmetic
