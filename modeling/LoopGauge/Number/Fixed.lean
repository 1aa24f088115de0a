import LoopGauge.Number.Basic
import LoopGauge.Number.Binary64

/-!
# Fixed-point number text

A double written with a given number of decimal places: the exact binary value is rounded once,
a half goes to the even neighbour, and no exponent is ever used.

## Main definitions

* `digits n`: the decimal numeral of a natural number.
* `Binary64.fixed x places`: the text of `x` with `places` decimals.
-/

namespace LoopGauge.Number

/-- The decimal numeral of a natural number. -/
def digits (n : Nat) : List Char := Nat.toDigits 10 n

/-- The decimal numeral as a string. -/
def decimal (n : Nat) : String := String.ofList (digits n)

/-- A numeral filled up with zeros on the left to at least `width` digits. -/
def paddedDigits (width n : Nat) : List Char :=
  let ds := digits n
  List.replicate (width - ds.length) '0' ++ ds

/-- The numeral of `n / 10 ^ places` with exactly `places` decimals. -/
def pointedDigits (places n : Nat) : List Char :=
  let whole := digits (n / tenTo places)
  if places = 0 then whole else whole ++ '.' :: paddedDigits places (n % tenTo places)

namespace Binary64

/-- The magnitude of a finite double in steps of `10 ^ -places`, rounded. -/
def scaled (x : Binary64) (places : Nat) : Nat :=
  roundHalfEven (x.units * tenTo places) unitsPerOne

/-- The text with `places` decimals. The sign of a negative zero is kept. -/
def fixed (x : Binary64) (places : Nat) : String :=
  if x.isNaN then "NaN"
  else
    let magnitude :=
      if x.isInfinite then "inf".toList else pointedDigits places (x.scaled places)
    String.ofList (if x.negative then '-' :: magnitude else magnitude)

end Binary64

end LoopGauge.Number
