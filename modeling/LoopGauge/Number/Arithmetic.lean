import LoopGauge.Number.Basic
import LoopGauge.Number.Binary64

/-!
# Arithmetic with rounding

Each operation on doubles is the exact one followed by one rounding to the nearest double. The
collection of operations that a numeric procedure needs is a record, `Arithmetic`, so that the
same procedure can run on doubles and be studied on exact numbers.

## Main definitions

* `Arithmetic α`: the operations that the sample statistics use.
* `Binary64.arithmetic`: these operations on doubles.
-/

namespace LoopGauge.Number

/--
The operations of a number type that the statistics of a sample use. `floorIndex` and
`ceilIndex` turn a position into an index: whole part below or above, nothing below zero.
-/
structure Arithmetic (α : Type) where
  /-- The number nearest to a quotient of whole numbers. -/
  ratio : Nat → Nat → α
  /-- What an empty sum is. -/
  emptySum : α
  add : α → α → α
  sub : α → α → α
  mul : α → α → α
  div : α → α → α
  sqrt : α → α
  /-- The smaller number; an undefined one is passed over. -/
  min : α → α → α
  floorIndex : α → Nat
  ceilIndex : α → Nat

namespace Arithmetic

variable {α : Type} (A : Arithmetic α)

/-- A whole number. -/
def ofNat (n : Nat) : α := A.ratio n 1

/-- The sum of a list from left to right. -/
def sum (xs : List α) : α := xs.foldl A.add A.emptySum

end Arithmetic

namespace Binary64

/-- The double nearest to a whole number of units, with the sign of that number. -/
def ofSignedUnits (n : Int) : Binary64 := ofRatio (n < 0) n.natAbs 1

/-- Addition. An exact zero is negative only if both terms are. -/
def add (x y : Binary64) : Binary64 :=
  if x.isNaN || y.isNaN then nan
  else if x.isInfinite then
    if y.isInfinite && x.negative != y.negative then nan else x
  else if y.isInfinite then y
  else
    let sum := x.signedUnits + y.signedUnits
    if sum = 0 then ofPattern (x.negative && y.negative) 0 else ofSignedUnits sum

def sub (x y : Binary64) : Binary64 := if y.isNaN then nan else x.add y.neg

/-- Multiplication. Zero times infinity is undefined. -/
def mul (x y : Binary64) : Binary64 :=
  let negative := x.negative != y.negative
  if x.isNaN || y.isNaN then nan
  else if x.isInfinite || y.isInfinite then
    if x.units = 0 || y.units = 0 then nan else ofPattern negative infinityPattern
  else ofRatio negative (x.units * y.units) unitsPerOne

/-- Division. A quotient by zero is infinite, and undefined for zero by zero. -/
def div (x y : Binary64) : Binary64 :=
  let negative := x.negative != y.negative
  if x.isNaN || y.isNaN then nan
  else if x.isInfinite then
    if y.isInfinite then nan else ofPattern negative infinityPattern
  else if y.isInfinite then ofPattern negative 0
  else if y.units = 0 then
    if x.units = 0 then nan else ofPattern negative infinityPattern
  else ofRatio negative (x.units * unitsPerOne) y.units

/--
The square root. The root of `n` units has `isqrt (n * 2 ^ 1074)` units and a rest; half a unit
stands for any rest, which is exact enough because a rounding boundary is a whole number of units.
-/
def sqrt (x : Binary64) : Binary64 :=
  if x.isNaN then nan
  else if x.units = 0 then x
  else if x.negative then nan
  else if x.isInfinite then x
  else
    let square := x.units * unitsPerOne
    let root := isqrt square
    ofRatio false (2 * root + if root * root = square then 0 else 1) 2

/-- The smaller number; a NaN is passed over, and of two equal numbers the second is taken. -/
def min (x y : Binary64) : Binary64 :=
  if x.isNaN then y
  else if y.isNaN then x
  else if x.lt y then x
  else y

/-- The largest index that a 64-bit word holds. -/
def indexLimit : Nat := wordLimit

/-- The whole part below; zero for negative numbers and NaN, the largest word at most. -/
def floorIndex (x : Binary64) : Nat :=
  if x.isNaN || x.negative then 0 else Nat.min (x.units / unitsPerOne) indexLimit

/-- The whole part above, with the same limits. -/
def ceilIndex (x : Binary64) : Nat :=
  if x.isNaN || x.negative then 0
  else Nat.min ((x.units + (unitsPerOne - 1)) / unitsPerOne) indexLimit

/-- The operations on doubles. An empty sum is `-0.0`, which no addition can show. -/
def arithmetic : Arithmetic Binary64 where
  ratio := ofQuotient
  emptySum := negZero
  add := add
  sub := sub
  mul := mul
  div := div
  sqrt := sqrt
  min := min
  floorIndex := floorIndex
  ceilIndex := ceilIndex

instance : Add Binary64 := ⟨add⟩
instance : Sub Binary64 := ⟨sub⟩
instance : Mul Binary64 := ⟨mul⟩
instance : Div Binary64 := ⟨div⟩
instance : Neg Binary64 := ⟨neg⟩

end Binary64

end LoopGauge.Number
