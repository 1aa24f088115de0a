import LoopGauge.Statistics.Percentile

/-!
# Summary of a sample

A list of numbers reduced to its extremes, mean, spread and percentiles. The list is put in order
first, so that everything below depends on the ordered list alone.

## Main definitions

* `Summary`: the ten figures.
* `ordered`: the list in the given order.
* `summarise`: the figures of an ordered list.
-/

namespace LoopGauge.Statistics

open Number

/-- What is kept of a sample. -/
structure Summary (α : Type) where
  min : α
  max : α
  mean : α
  /-- The root of the mean squared deviation. -/
  stddev : α
  p50 : α
  p90 : α
  p95 : α
  p99 : α
  p999 : α
  count : Nat
deriving DecidableEq, Repr

/-- A summary counts as a success when there was a sample at all. -/
def Summary.success {α : Type} (s : Summary α) : Bool := 0 < s.count

variable {α : Type} (A : Arithmetic α)

/-- The list in ascending order. -/
def ordered (le : α → α → Bool) (samples : List α) : List α := samples.mergeSort le

def mean (samples : List α) : α := A.div (A.sum samples) (A.ofNat samples.length)

/-- The mean squared deviation from `centre`. -/
def variance (samples : List α) (centre : α) : α :=
  let square (x : α) : α := A.mul (A.sub x centre) (A.sub x centre)
  A.div (A.sum (samples.map square)) (A.ofNat samples.length)

/-- The percentile `num / den`, for one that exists. -/
def rank (sorted : List α) (num den : Nat) : α :=
  (percentile? A sorted (A.ratio num den)).getD (A.ofNat 0)

/-- The figures of an ascending list; all zero for an empty one. -/
def summarise (sorted : List α) : Summary α :=
  let zero := A.ofNat 0
  match sorted with
  | [] => ⟨zero, zero, zero, zero, zero, zero, zero, zero, zero, 0⟩
  | first :: rest =>
    let mean := mean A sorted
    { min := first
      max := (first :: rest).getLast (by simp)
      mean := mean
      stddev := A.sqrt (variance A sorted mean)
      p50 := rank A sorted 50 1
      p90 := rank A sorted 90 1
      p95 := rank A sorted 95 1
      p99 := rank A sorted 99 1
      p999 := rank A sorted 999 10
      count := sorted.length }

/-- The figures of a list of doubles, taken in the total order. -/
def ofSamples (samples : List Binary64) : Summary Binary64 :=
  summarise Binary64.arithmetic (ordered Binary64.totalLe samples)

end LoopGauge.Statistics
