import LoopGauge.Number.Arithmetic

/-!
# Percentiles

Percentiles of an ascending list by linear interpolation between neighbours.
-/

namespace LoopGauge.Statistics

open Number

variable {α : Type} (A : Arithmetic α)

/-- The position of a percentile in a list of `n` elements: `(p / 100) * (n - 1)`. -/
def position (n : Nat) (p : α) : α :=
  A.mul (A.div p (A.ofNat 100)) (A.sub (A.ofNat n) (A.ofNat 1))

/-- The point at `position` between two elements, never past the upper one. -/
def interpolate (position : α) (lowerIndex : Nat) (lower upper : α) : α :=
  let weight := A.sub position (A.ofNat lowerIndex)
  A.min (A.add lower (A.mul weight (A.sub upper lower))) upper

/--
The percentile `p` of an ascending list; zero for an empty one. A percentile whose lower
neighbour lies past the end of the list does not exist.
-/
def percentile? (sorted : List α) (p : α) : Option α :=
  if sorted.isEmpty then some (A.ofNat 0)
  else
    let position := position A sorted.length p
    let lower := A.floorIndex position
    let upper := Nat.min (A.ceilIndex position) (sorted.length - 1)
    if lower = upper then sorted[lower]?
    else do
      let low ← sorted[lower]?
      let high ← sorted[upper]?
      return interpolate A position lower low high

end LoopGauge.Statistics
