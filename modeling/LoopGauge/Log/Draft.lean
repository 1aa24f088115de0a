import LoopGauge.Fault
import LoopGauge.Log.Entry
import LoopGauge.Result.Latency
import LoopGauge.Result.Throughput
import LoopGauge.Text.Flag

/-!
# Drafts of log records

What whoever reports an event knows about it. The logger adds its name and the time, and the
context adds its fields.

## Main definitions

* `Draft`: a record to be.
* `Draft.withField`: adds a field; of two with one key the last stays.
-/

namespace LoopGauge.Log

open Json

/-- A record before it is written. The fields are sorted by key. -/
structure Draft where
  level : Level
  message : String
  correlation : Option String := none
  fields : List (String × Value) := []
  location : Option Location := none
deriving Repr

namespace Draft

def withCorrelation (d : Draft) (id : String) : Draft := { d with correlation := some id }

def withField (d : Draft) (key : String) (value : Value) : Draft :=
  { d with fields := insertKey key value d.fields }

def withLocation (d : Draft) (l : Location) : Draft := { d with location := some l }

/-- Adds fields one after the other. -/
def withFields (d : Draft) (fields : List (String × Value)) : Draft :=
  fields.foldl (fun d (key, value) => d.withField key value) d

/-- The figures of a latency result. -/
def latencyFields (r : LatencyResult) : List (String × Value) := [
  ("samples", .ofWord r.sampleCount),
  ("lost_rounds", .ofWord r.lostRounds),
  ("min_us", .real r.minUs),
  ("median_us", .real r.medianUs),
  ("p99_us", .real r.p99Us),
  ("max_us", .real r.maxUs),
  ("success", .flag r.success)]

/-- The figures of a throughput result. -/
def throughputFields (r : ThroughputResult) : List (String × Value) := [
  ("bytes_transferred", .ofWord r.bytesTransferred),
  ("bytes_sent", .ofWord r.bytesSent),
  ("duration_sec", .real r.durationSec),
  ("mib_per_sec", .real r.mibPerSec),
  ("success", .flag r.success)]

/-- What the kind of a fault says. -/
def faultFields (f : Fault) : List (String × Value) := [
  ("error_category", .text f.kind.category),
  ("error_recoverable", .flag f.kind.recoverable),
  ("error_exit_code", .ofNat f.exitCode)]

def withLatency (d : Draft) (r : LatencyResult) : Draft := d.withFields (latencyFields r)

def withThroughput (d : Draft) (r : ThroughputResult) : Draft := d.withFields (throughputFields r)

def withFault (d : Draft) (f : Fault) : Draft := d.withFields (faultFields f)

/-- The record of the start of an operation. -/
def operationStart (name id : String) : Draft :=
  ({ level := .debug
     message := "Started operation: " ++ name
     correlation := some id } : Draft).withFields [
    ("operation", .text name), ("operation_type", .text "start")]

/-- The record of the end of an operation. -/
def operationEnd (name id : String) (success : Bool) : Draft :=
  ({ level := .debug
     message := "Completed operation: " ++ name ++ " (success: " ++ Text.ofFlag success ++ ")"
     correlation := some id } : Draft).withFields [
    ("operation", .text name), ("operation_type", .text "end"), ("success", .flag success)]

end Draft

end LoopGauge.Log
