import LoopGauge.Number.Basic
import LoopGauge.Number.Rounding

/-!
# Double precision numbers as bit patterns

A `Binary64` is the 64-bit pattern of an IEEE 754 double. Two patterns are equal when all
bits are, so the two zeros differ and so do NaNs of different payloads. A finite pattern is a
whole multiple of the smallest positive double, `2 ^ -1074`; that multiple is `units`, and all
exact statements about doubles are statements about `units`.

## Main definitions

* `Binary64.units`: the magnitude as a multiple of `2 ^ -1074`.
* `Binary64.ofRatio`: the double nearest to a ratio of units.
* `Binary64.orderKey`: the total order of bit patterns, from negative NaNs to positive ones.

## Design notes

Infinity has `units` too (the value its fields would give one binade above the largest finite
double), so magnitudes compare correctly without a case for it.
-/

namespace LoopGauge.Number

/-- A double precision number, given by its bits. -/
structure Binary64 where
  bits : UInt64
deriving DecidableEq, Inhabited, Repr

namespace Binary64

/-- How many units make one: the smallest positive double is `2 ^ -1074`. -/
def unitsPerOne : Nat := twoTo 1074

/-- The pattern of positive infinity, read as a number. -/
def infinityPattern : Nat := 2047 * twoTo 52

/-- The double with the given sign and the given 63 lower bits. -/
def ofPattern (negative : Bool) (pattern : Nat) : Binary64 :=
  ⟨UInt64.ofNat ((if negative then twoTo 63 else 0) + pattern)⟩

/-- The sign bit. -/
def negative (x : Binary64) : Bool := twoTo 63 ≤ x.bits.toNat

/-- The 63 bits below the sign. -/
def pattern (x : Binary64) : Nat := x.bits.toNat % twoTo 63

def isNaN (x : Binary64) : Bool := infinityPattern < x.pattern

def isInfinite (x : Binary64) : Bool := x.pattern == infinityPattern

def isFinite (x : Binary64) : Bool := x.pattern < infinityPattern

/-- The number of units that a 63-bit pattern stands for. -/
def unitsOfPattern (pattern : Nat) : Nat :=
  let exponent := pattern / twoTo 52
  let fraction := pattern % twoTo 52
  if exponent = 0 then fraction else (twoTo 52 + fraction) * twoTo (exponent - 1)

/-- The magnitude of a finite double as a multiple of `2 ^ -1074`. -/
def units (x : Binary64) : Nat := unitsOfPattern x.pattern

/-- The value of a finite double in units, with its sign. -/
def signedUnits (x : Binary64) : Int :=
  if x.negative then -(x.units : Int) else x.units

def zero : Binary64 := ofPattern false 0
def negZero : Binary64 := ofPattern true 0
def infinity : Binary64 := ofPattern false infinityPattern
def negInfinity : Binary64 := ofPattern true infinityPattern

/-- The NaN that arithmetic gives. -/
def nan : Binary64 := ofPattern false (infinityPattern + twoTo 51)

/--
The pattern of the double nearest to `num / den` units, ties to even. Below `2 ^ 53` units the
patterns count the units; above, each doubling of the value adds `2 ^ 52` to the pattern, and a
carry out of the fraction lands in the exponent by itself.
-/
def patternOfRatio (num den : Nat) : Nat :=
  let shift := Nat.log2 (num / den) - 52
  min (shift * twoTo 52 + roundHalfEven num (den * twoTo shift)) infinityPattern

/-- The double nearest to `num / den` units with the given sign. -/
def ofRatio (negative : Bool) (num den : Nat) : Binary64 :=
  ofPattern negative (patternOfRatio num den)

/-- The double nearest to the quotient of two whole numbers. -/
def ofQuotient (num den : Nat) : Binary64 := ofRatio false (num * unitsPerOne) den

/-- The double nearest to a whole number. -/
def ofNat (n : Nat) : Binary64 := ofQuotient n 1

instance (n : Nat) : OfNat Binary64 n := ⟨ofNat n⟩

/-- The same magnitude with the other sign. -/
def neg (x : Binary64) : Binary64 := ofPattern (!x.negative) x.pattern

/--
The place of a pattern in the total order: negative NaNs, negative infinity, the finite doubles
with `-0.0` before `0.0`, infinity, NaNs.
-/
def orderKey (x : Binary64) : Int :=
  if x.negative then -(x.pattern : Int) - 1 else x.pattern

/-- The total order of bit patterns. -/
def totalLe (x y : Binary64) : Bool := x.orderKey ≤ y.orderKey

/-- Less than, as numbers: the zeros are equal, and a NaN is less than nothing. -/
def lt (x y : Binary64) : Bool :=
  !x.isNaN && !y.isNaN && x.signedUnits < y.signedUnits

/-- At most, as numbers. -/
def le (x y : Binary64) : Bool :=
  !x.isNaN && !y.isNaN && x.signedUnits ≤ y.signedUnits

end Binary64

end LoopGauge.Number
