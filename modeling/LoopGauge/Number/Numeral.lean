import LoopGauge.Number.Basic

/-!
# Reading whole numbers

Decimal numerals of bounded numbers: an optional sign, then digits, nothing else. The cause of a
refusal is the first one met from left to right.

## Main definitions

* `Numeral.unsigned? limit cs`: a number up to `limit`; a plus sign may lead.
* `Numeral.signed? bound cs`: a number from `-bound` up to `bound - 1`.
* `Numeral.Problem`: why a text is no such numeral.
-/

namespace LoopGauge.Number

/-- The value of a hexadecimal digit in either letter case. -/
def hexValue? (c : Char) : Option Nat :=
  if '0' ≤ c && c ≤ '9' then some (c.toNat - 48)
  else if 'a' ≤ c && c ≤ 'f' then some (c.toNat - 87)
  else if 'A' ≤ c && c ≤ 'F' then some (c.toNat - 55)
  else none

namespace Numeral

/-- Why a text is no numeral of the wanted range. -/
inductive Problem where
  | empty
  | invalidDigit
  | tooLarge
  | tooSmall
deriving DecidableEq, Repr

def Problem.message : Problem → String
  | empty => "cannot parse integer from empty string"
  | invalidDigit => "invalid digit found in string"
  | tooLarge => "number too large to fit in target type"
  | tooSmall => "number too small to fit in target type"

/-- The value of an ASCII digit. -/
def digitValue? (c : Char) : Option Nat :=
  if '0' ≤ c && c ≤ '9' then some (c.toNat - '0'.toNat) else none

/-- Reads digits after a number already read; `tooFar` is the cause once `limit` is passed. -/
def readDigits (limit : Nat) (tooFar : Problem) (acc : Nat) : List Char → Except Problem Nat
  | [] => .ok acc
  | c :: cs =>
    match digitValue? c with
    | none => .error .invalidDigit
    | some d =>
      if limit < acc * 10 + d then .error tooFar
      else readDigits limit tooFar (acc * 10 + d) cs

/-- A number up to `limit`. -/
def unsigned? (limit : Nat) : List Char → Except Problem Nat
  | [] => .error .empty
  | ['+'] => .error .invalidDigit
  | '+' :: cs => readDigits limit .tooLarge 0 cs
  | cs => readDigits limit .tooLarge 0 cs

/-- A number of at least `-bound` and below `bound`. -/
def signed? (bound : Nat) : List Char → Except Problem Int
  | [] => .error .empty
  | ['+'] | ['-'] => .error .invalidDigit
  | '-' :: cs => (readDigits bound .tooSmall 0 cs).map fun n => -(n : Int)
  | '+' :: cs => (readDigits (bound - 1) .tooLarge 0 cs).map Int.ofNat
  | cs => (readDigits (bound - 1) .tooLarge 0 cs).map Int.ofNat

/-- A 64-bit word. -/
def word? (cs : List Char) : Except Problem UInt64 :=
  (unsigned? wordLimit cs).map UInt64.ofNat

end Numeral

end LoopGauge.Number
