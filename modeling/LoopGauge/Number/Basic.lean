/-!
# Powers, totals and the greatest word

The powers that binary and decimal numerals are made of, sums of lists, and where words end.
-/

namespace LoopGauge.Number

/-- Two to the power `n`. -/
def twoTo (n : Nat) : Nat := Nat.pow 2 n

/-- Ten to the power `n`. -/
def tenTo (n : Nat) : Nat := Nat.pow 10 n

/-- The greatest 64-bit word. -/
def wordLimit : Nat := 18446744073709551615

/-- All numbers of a list together. -/
def total : List Nat → Nat
  | [] => 0
  | n :: ns => n + total ns

end LoopGauge.Number
