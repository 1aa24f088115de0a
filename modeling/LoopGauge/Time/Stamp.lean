import LoopGauge.Text.Blank
import LoopGauge.Text.Casing
import LoopGauge.Time.Moment

/-!
# Reading timestamps

A timestamp has a date, a letter `T` or a space, a time and an offset from universal time. Blanks
may stand around the parts, months and days may have one digit, a year with a sign any number of
digits, and decimals of the second beyond the ninth are dropped.

## Main definitions

* `Stamp.read?`: the moment of a timestamp.
-/

namespace LoopGauge.Time.Stamp

open Text

/-- Reads something from the front of a text. -/
abbrev Reader (α : Type) := List Char → Option (α × List Char)

def isDigit (c : Char) : Bool := '0' ≤ c && c ≤ '9'

/-- At least one digit and at most `width`. -/
def digitsUpTo (width : Nat) : Reader (List Char) := fun cs =>
  let ds := (cs.takeWhile isDigit).take width
  if ds.isEmpty then none else some (ds, cs.drop ds.length)

def valueOf (ds : List Char) : Nat := Nat.ofDigitChars 10 ds 0

/-- A number in a range, after any blanks. -/
def field (width low high : Nat) : Reader Nat := fun cs => do
  let (ds, rest) ← digitsUpTo width (trimStart cs)
  let n := valueOf ds
  if low ≤ n && n ≤ high then some (n, rest) else none

/-- A year: four digits at most, or a sign and any number of digits. -/
def year : Reader Int := fun cs =>
  match trimStart cs with
  | '-' :: rest => do
    let (ds, rest) ← digitsUpTo rest.length rest
    return (-(valueOf ds : Int), rest)
  | '+' :: rest => do
    let (ds, rest) ← digitsUpTo rest.length rest
    return ((valueOf ds : Int), rest)
  | rest => do
    let (ds, rest) ← digitsUpTo 4 rest
    return ((valueOf ds : Int), rest)

/-- A separator, after any blanks. -/
def separator (c : Char) : Reader Unit := fun cs =>
  match trimStart cs with
  | d :: rest => if d = c then some ((), rest) else none
  | [] => none

/-- A date that the calendar has. -/
def date : Reader Date := fun cs => do
  let (y, cs) ← year cs
  let ((), cs) ← separator '-' cs
  let (m, cs) ← field 2 1 12 cs
  let ((), cs) ← separator '-' cs
  let (d, cs) ← field 2 1 31 cs
  let date : Date := ⟨y, m, d⟩
  if Date.firstYear ≤ y && y ≤ Date.lastYear && date.exists? then some (date, cs) else none

/-- The decimals of a second as nanoseconds, if there are any. -/
def fraction : Reader Nat
  | '.' :: cs => do
    let (ds, rest) ← digitsUpTo 9 cs
    return (valueOf ds * Number.tenTo (9 - ds.length), rest.dropWhile isDigit)
  | cs => some (0, cs)

/-- A time of day: seconds since midnight and nanoseconds. -/
def time : Reader (Nat × Nat) := fun cs => do
  let (h, cs) ← field 2 0 23 cs
  let ((), cs) ← separator ':' cs
  let (m, cs) ← field 2 0 59 cs
  let ((), cs) ← separator ':' cs
  let (s, cs) ← field 2 0 60 cs
  let (n, cs) ← fraction cs
  let (s, n) := if s = 60 then (59, 1000000000 + n) else (s, n)
  return ((h * 3600 + m * 60 + s, n), cs)

/-- Exactly two digits. -/
def twoDigits : Reader Nat
  | a :: b :: rest => if isDigit a && isDigit b then some (valueOf [a, b], rest) else none
  | _ => none

/-- The sign of an offset; a minus sign is as good as a hyphen. -/
def sign : Reader Bool
  | '+' :: rest => some (false, rest)
  | '-' :: rest => some (true, rest)
  | '−' :: rest => some (true, rest)
  | _ => none

/-- An offset as seconds: `Z`, `UTC`, or hours and minutes with a sign, less than a day. -/
def offset : Reader Int := fun cs =>
  let cs := trimStart cs
  if lowercaseAscii (cs.take 3) = ['u', 't', 'c'] then some (0, cs.drop 3)
  else
    match cs with
    | 'Z' :: rest => some (0, rest)
    | 'z' :: rest => some (0, rest)
    | cs => do
      let (negative, cs) ← sign cs
      let (h, cs) ← twoDigits cs
      let (m, cs) ← twoDigits (cs.dropWhile fun c => c == ':' || isBlank c)
      let seconds : Int := h * 3600 + m * 60
      if 60 ≤ m || 24 ≤ h then none
      else some (if negative then -seconds else seconds, cs)

/-- The mark between date and time. -/
def middle : Reader Unit
  | c :: rest => if c = 'T' || c = 't' || c = ' ' then some ((), rest) else none
  | [] => none

/-- The moment that a timestamp names. -/
def read? (s : String) : Option Moment := do
  let (d, cs) ← date s.toList
  let ((), cs) ← middle cs
  let ((second, nanos), cs) ← time cs
  let (shift, cs) ← offset cs
  let m : Moment := ⟨d.dayNumber * Moment.dayLength + second - shift, nanos⟩
  let year := m.date.year
  if (trimStart cs).isEmpty && Date.firstYear ≤ year && year ≤ Date.lastYear then some m else none

end LoopGauge.Time.Stamp
