import LoopGauge.Number.Fixed
import LoopGauge.Time.Date

/-!
# Moments

Points in time in universal time, with nanoseconds, and how records show them.

## Main definitions

* `Moment`: seconds since 1970 and nanoseconds.
* `Moment.full`: date and time with `T` between and `Z` behind.
* `Moment.forConsole`, `Moment.clock`: the shorter forms.
-/

namespace LoopGauge.Time

open Number

/-- A point in time. In a leap second `nanos` has one second more than it could otherwise have. -/
structure Moment where
  seconds : Int
  nanos : Nat
deriving DecidableEq, Repr, Inhabited

namespace Moment

/-- The seconds of a day. -/
def dayLength : Int := 86400

def date (m : Moment) : Date := Date.ofDayNumber (m.seconds / dayLength)

/-- The seconds since midnight. -/
def secondOfDay (m : Moment) : Nat := (m.seconds % dayLength).toNat

/-- Whether the moment lies in a leap second. -/
def inLeapSecond (m : Moment) : Bool := 1000000000 ≤ m.nanos

/-- The second on the clock, sixty in a leap second. -/
def clockSecond (m : Moment) : Nat := m.secondOfDay % 60 + if m.inLeapSecond then 1 else 0

/-- The nanoseconds within the second. -/
def subsecond (m : Moment) : Nat := m.nanos % 1000000000

/-- A year of the common era in four digits, any other with its sign. -/
def yearText (year : Int) : List Char :=
  if 0 ≤ year && year ≤ 9999 then paddedDigits 4 year.toNat
  else (if year < 0 then '-' else '+') :: paddedDigits 4 year.natAbs

def dateText (m : Moment) : List Char :=
  let d := m.date
  yearText d.year ++ '-' :: paddedDigits 2 d.month ++ '-' :: paddedDigits 2 d.day

/-- Hours, minutes and seconds. -/
def clockText (m : Moment) : List Char :=
  let s := m.secondOfDay
  paddedDigits 2 (s / 3600) ++ ':' :: paddedDigits 2 (s / 60 % 60) ++
    ':' :: paddedDigits 2 m.clockSecond

/-- Decimals of the second: none, or as few groups of three as suffice. -/
def fractionText (n : Nat) : List Char :=
  if n = 0 then []
  else if n % 1000000 = 0 then '.' :: paddedDigits 3 (n / 1000000)
  else if n % 1000 = 0 then '.' :: paddedDigits 6 (n / 1000)
  else '.' :: paddedDigits 9 n

/-- The form of documents. -/
def full (m : Moment) : String :=
  String.ofList (m.dateText ++ 'T' :: m.clockText ++ fractionText m.subsecond ++ ['Z'])

/-- The form of records on a terminal, with thousandths of a second. -/
def forConsole (m : Moment) : String :=
  String.ofList (m.dateText ++ ' ' :: m.clockText ++
    '.' :: paddedDigits 3 (m.subsecond / 1000000))

/-- The time of day. -/
def clock (m : Moment) : String := String.ofList m.clockText

end Moment

end LoopGauge.Time
