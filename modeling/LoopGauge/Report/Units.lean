import LoopGauge.Number.Arithmetic
import LoopGauge.Number.Fixed

/-!
# Figures with units

How times, byte counts and percentages are written for a reader.

## Main definitions

* `micros`, `millis`: times, in a larger unit from one thousand on.
* `bytes`: byte counts in binary units.
* `percentage`: percentages with one decimal.
-/

namespace LoopGauge.Report

open Number

/-- A number of microseconds; from one thousand on in milliseconds. -/
def micros (us : Binary64) : String :=
  if us.lt 1000 then us.fixed 1 ++ "µs" else (us / 1000).fixed 2 ++ "ms"

/-- A number of milliseconds; from one thousand on in seconds. -/
def millis (ms : Binary64) : String :=
  if ms.lt 1000 then ms.fixed 1 ++ "ms" else (ms / 1000).fixed 2 ++ "s"

/-- The largest percentage that is not written as one hundred, about. -/
def nearlyAll : Binary64 := Binary64.ofQuotient 9995 100

/-- The smallest percentage that is not written as zero, about. -/
def nearlyNone : Binary64 := Binary64.ofQuotient 5 100

/-- A percentage. -/
def percentage (p : Binary64) : String :=
  if nearlyAll.le p then "100.0%"
  else if p.lt nearlyNone then "0.0%"
  else p.fixed 1 ++ "%"

def kib : Binary64 := Binary64.ofNat 1024
def mib : Binary64 := Binary64.ofNat 1048576
def gib : Binary64 := Binary64.ofNat 1073741824

/-- A byte count in the largest unit of which it holds one. -/
def bytes (n : UInt64) : String :=
  let b := Binary64.ofNat n.toNat
  if gib.le b then (b / gib).fixed 2 ++ "GiB"
  else if mib.le b then (b / mib).fixed 1 ++ "MiB"
  else if kib.le b then (b / kib).fixed 1 ++ "KiB"
  else decimal n.toNat ++ "B"

end LoopGauge.Report
