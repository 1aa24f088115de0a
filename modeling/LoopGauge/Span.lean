import LoopGauge.Number.Arithmetic
import LoopGauge.Number.Basic
import LoopGauge.Number.Fixed

/-!
# Spans of time

A span is a whole number of nanoseconds, up to the longest that 64-bit seconds and a rest below
one second can express.

## Main definitions

* `Span`: nanoseconds with their bound.
* `Span.asSeconds`, `Span.asMillis`: the double nearest to seconds plus rest, and a thousand of it.
* `Span.divide`: an equal share, the rest of the division dropped.
* `Span.brief`: the text in the largest unit that fits.
-/

namespace LoopGauge

open Number

/-- A span of time in whole nanoseconds. -/
structure Span where
  nanos : Nat
  lt_limit : nanos < 18446744073709551616 * 1000000000 := by decide
deriving DecidableEq, Repr

namespace Span

instance : Inhabited Span := ⟨⟨0, by decide⟩⟩

def zero : Span := ⟨0, by decide⟩

/-- The span of that many nanoseconds, if it is not too long. -/
def ofNanos? (n : Nat) : Option Span :=
  if h : n < 18446744073709551616 * 1000000000 then some ⟨n, h⟩ else none

/-- So many nanoseconds, or the longest span there is. -/
def ofNanos (n : Nat) : Span := ⟨min n (18446744073709551616 * 1000000000 - 1), by omega⟩

/-- Seconds and nanoseconds together; whole seconds among the nanoseconds carry over. -/
def ofParts? (seconds nanos : Nat) : Option Span := ofNanos? (seconds * 1000000000 + nanos)

/-- Whole milliseconds. -/
def ofMillis (ms : UInt64) : Span :=
  ⟨ms.toNat * 1000000, by have := ms.toNat_lt; omega⟩

/-- Whole seconds. -/
def seconds (s : Span) : Nat := s.nanos / 1000000000

/-- The nanoseconds that make no whole second. -/
def subsecond (s : Span) : Nat := s.nanos % 1000000000

/-- Seconds as a double: the whole seconds and the rest are each rounded, then added. -/
def asSeconds (s : Span) : Binary64 :=
  Binary64.ofNat s.seconds + Binary64.ofNat s.subsecond / Binary64.ofNat 1000000000

/-- Milliseconds as a double. -/
def asMillis (s : Span) : Binary64 := s.asSeconds * Binary64.ofNat 1000

/-- Whole milliseconds, cut to a 64-bit word. -/
def millisWord (s : Span) : UInt64 := UInt64.ofNat (s.nanos / 1000000)

/-- An equal share of a span. -/
def divide (s : Span) (count : Nat) : Span :=
  ⟨s.nanos / count, Nat.lt_of_le_of_lt (Nat.div_le_self _ _) s.lt_limit⟩

instance : LT Span := ⟨fun a b => a.nanos < b.nanos⟩

instance (a b : Span) : Decidable (a < b) := inferInstanceAs (Decidable (a.nanos < b.nanos))

/-- A number of thousandths, millionths or billionths after a point, without trailing zeros. -/
def decimals (places rest : Nat) : List Char :=
  let ds := ((paddedDigits places rest).reverse.dropWhile (· == '0')).reverse
  if ds.isEmpty then [] else '.' :: ds

/-- The span in the largest of the units s, ms, µs and ns of which it holds one. -/
def brief (s : Span) : String :=
  let n := s.nanos
  let text (places : Nat) (unit : String) : String :=
    String.ofList (digits (n / tenTo places) ++ decimals places (n % tenTo places)) ++ unit
  if 1000000000 ≤ n then text 9 "s"
  else if 1000000 ≤ n then text 6 "ms"
  else if 1000 ≤ n then text 3 "µs"
  else text 0 "ns"

end Span

end LoopGauge
