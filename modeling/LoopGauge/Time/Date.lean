import LoopGauge.Number.Basic

/-!
# Calendar dates

Dates of the Gregorian calendar, which is carried on without end in both directions, and the
number of days between them.

## Main definitions

* `Date`: year, month and day.
* `Date.dayNumber`: days since the first of January 1970.
* `Date.ofDayNumber`: the date of a day.
-/

namespace LoopGauge.Time

/-- A date. -/
structure Date where
  year : Int
  month : Nat
  day : Nat
deriving DecidableEq, Repr

def isLeapYear (year : Int) : Bool :=
  year % 4 = 0 && (year % 100 ≠ 0 || year % 400 = 0)

/-- The days of the months of a year. -/
def monthLengths (year : Int) : List Nat :=
  [31, if isLeapYear year then 29 else 28, 31, 30, 31, 30, 31, 31, 30, 31, 30, 31]

/-- The days before the first of January of a year, counted from year one. -/
def daysBeforeYear (year : Int) : Int :=
  let y := year - 1
  365 * y + y / 4 - y / 100 + y / 400

namespace Date

/-- The earliest and the latest year of a record. -/
def firstYear : Int := -262143
def lastYear : Int := 262142

/-- Whether the calendar has the date. -/
def exists? (d : Date) : Bool :=
  1 ≤ d.day &&
    match (monthLengths d.year)[d.month - 1]? with
    | some length => 1 ≤ d.month && d.day ≤ length
    | none => false

/-- Days since the first of January 1970. -/
def dayNumber (d : Date) : Int :=
  daysBeforeYear d.year + Number.total ((monthLengths d.year).take (d.month - 1)) + d.day - 1 -
    daysBeforeYear 1970

/-- The month and day of the day with a number within a year, given the months from `month` on. -/
def withinYear (year : Int) : (month rest : Nat) → List Nat → Date
  | month, rest, [] => ⟨year, month, rest + 1⟩
  | month, rest, length :: lengths =>
    if rest < length then ⟨year, month, rest + 1⟩
    else withinYear year (month + 1) (rest - length) lengths

/--
The date of a day. Among 400 years there are 146097 days, so the year is first guessed from the
mean length of a year; the guess is at most one too high.
-/
def ofDayNumber (n : Int) : Date :=
  let days := n + daysBeforeYear 1970
  let guess := days * 400 / 146097 + 1
  let year :=
    if days < daysBeforeYear guess then guess - 1
    else if daysBeforeYear (guess + 1) ≤ days then guess + 1
    else guess
  withinYear year 1 (days - daysBeforeYear year).toNat (monthLengths year)

end Date

end LoopGauge.Time
