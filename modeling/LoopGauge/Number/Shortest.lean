import LoopGauge.Number.Basic
import LoopGauge.Number.Fixed

/-!
# Shortest number text

The fewest decimal digits that read back as the same double, of those the nearest, and of two
equally near the even ones. For one,
two, … up to seventeen digits the two neighbours of the value on the decimal grid of that
precision are tried; the first grid with a neighbour in the interval of reals that round to the
double wins.

## Main definitions

* `Binary64.shortest`: digits and decimal exponent.
* `Spelling.text`: how digits and exponent are written.
-/

namespace LoopGauge.Number

/-- A positive decimal number in scientific form: `d.ddd × 10 ^ exponent`. -/
structure Scientific where
  digits : List Char
  exponent : Int
deriving DecidableEq, Repr

namespace Binary64

/-- The exponent of the leading decimal digit of a positive number of units. -/
def leadingExponent (units : Nat) : Int :=
  ((digits (units * tenTo 400 / unitsPerOne)).length : Int) - 401

/-- A decimal grid: the multiples of `num / den` units. -/
structure Grid where
  num : Nat
  den : Nat

/-- The grid of the multiples of `10 ^ exponent`. -/
def gridOf (exponent : Int) : Grid :=
  if exponent < 0 then ⟨unitsPerOne, tenTo exponent.natAbs⟩
  else ⟨unitsPerOne * tenTo exponent.natAbs, 1⟩

/-- Whether `d` grid steps lie in the interval of reals that round to the pattern. -/
def Grid.readsBack (g : Grid) (pattern d : Nat) : Bool :=
  let point := 2 * (d * g.num)
  let low := (unitsOfPattern (pattern - 1) + unitsOfPattern pattern) * g.den
  let high := (unitsOfPattern pattern + unitsOfPattern (pattern + 1)) * g.den
  if pattern % 2 = 0 then low ≤ point && point ≤ high else low < point && point < high

/-- The grid point that reads back, the nearer one if both neighbours do, the even one if they are
equally near. -/
def Grid.candidate (g : Grid) (pattern : Nat) : Option Nat :=
  let value := unitsOfPattern pattern * g.den
  let below := value / g.num
  let above := below + 1
  if g.readsBack pattern below && g.readsBack pattern above then
    some (roundHalfEven value g.num)
  else if g.readsBack pattern below then some below
  else if g.readsBack pattern above then some above
  else none

/-- Drops trailing zeros, but not the last digit. -/
def trimZeros (ds : List Char) : List Char :=
  match (ds.reverse.dropWhile (· == '0')).reverse with
  | [] => ['0']
  | kept => kept

/-- The digits of `d` grid steps of `10 ^ step`. -/
def scientificOf (d : Nat) (step : Int) : Scientific :=
  let ds := digits d
  ⟨trimZeros ds, step + (ds.length : Int) - 1⟩

/-- Tries the grids with `count`, `count + 1`, … digits. -/
def search (pattern : Nat) (leading : Int) : (count tries : Nat) → Scientific
  | count, 0 =>
    let step := leading - count + 1
    let g := gridOf step
    scientificOf (roundHalfEven (unitsOfPattern pattern * g.den) g.num) step
  | count, tries + 1 =>
    let step := leading - count + 1
    match (gridOf step).candidate pattern with
    | some d => scientificOf d step
    | none => search pattern leading (count + 1) tries

/-- The shortest digits of a finite nonzero double. -/
def shortest (x : Binary64) : Scientific := search x.pattern (leadingExponent x.units) 1 17

end Binary64

/-- How a number in scientific form is written. -/
structure Spelling where
  /-- The lowest exponent that is written positionally. -/
  lowest : Int
  /-- The highest exponent that is written positionally. -/
  highest : Int
  /-- Whether a positive exponent carries a plus sign. -/
  plus : Bool

namespace Spelling

/-- Positional text with at least one decimal. -/
def positional (s : Scientific) : List Char :=
  if s.exponent < 0 then
    '0' :: '.' :: (List.replicate (s.exponent.natAbs - 1) '0' ++ s.digits)
  else
    let whole := s.exponent.natAbs + 1
    let zeros := List.replicate (whole - s.digits.length) '0'
    let decimals := s.digits.drop whole
    s.digits.take whole ++ zeros ++ '.' :: (if decimals.isEmpty then ['0'] else decimals)

/-- Exponent text: one digit, the other digits as decimals if there are any, the exponent. -/
def exponential (sp : Spelling) (s : Scientific) : List Char :=
  let decimals := s.digits.drop 1
  let sign := if s.exponent < 0 then ['-'] else if sp.plus then ['+'] else []
  s.digits.take 1 ++ (if decimals.isEmpty then [] else '.' :: decimals) ++
    'e' :: sign ++ digits s.exponent.natAbs

/-- The text of a finite double. -/
def text (sp : Spelling) (x : Binary64) : List Char :=
  let magnitude :=
    if x.units = 0 then ['0', '.', '0']
    else
      let s := x.shortest
      if sp.lowest ≤ s.exponent && s.exponent ≤ sp.highest then positional s
      else sp.exponential s
  if x.negative then '-' :: magnitude else magnitude

end Spelling

end LoopGauge.Number
