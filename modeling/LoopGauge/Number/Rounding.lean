/-!
# Rounding exact ratios

Quotients of natural numbers rounded to whole numbers, and the integer square root.
Every rounded number text and every rounded arithmetic operation of the library goes
through `roundHalfEven`, so its law is the only one that matters: the result is a nearest
whole number, and a half goes to the even neighbour.

## Main definitions

* `roundHalfEven num den`: the whole number nearest to `num / den`, ties to even.
* `isqrt n`: the largest `r` with `r * r ≤ n`.
-/

namespace LoopGauge.Number

/-- The whole number nearest to `num / den`; a half goes to the even neighbour. -/
def roundHalfEven (num den : Nat) : Nat :=
  let q := num / den
  let twice := 2 * (num % den)
  if twice < den then q
  else if den < twice then q + 1
  else q + q % 2

/-- The integer square root, two bits of `n` at a time from the top. -/
def isqrt (n : Nat) : Nat :=
  if h : n < 2 then n
  else
    let r := 2 * isqrt (n / 4)
    if (r + 1) * (r + 1) ≤ n then r + 1 else r
termination_by n
decreasing_by omega

end LoopGauge.Number
