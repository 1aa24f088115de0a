import LoopGauge.Report.Scheme
import LoopGauge.Report.Units
import LoopGauge.RunSummary

/-!
# What the tables show

The columns of the two tables, and the rows of the sub-tests. The figures of a result are listed in
the order of the columns that stand over them, and the tone of a figure is told by its place in that
list.

## Main definitions

* `latencyColumns`, `throughputColumns`: the columns of the two tables.
* `latencyTexts`, `throughputTexts`: the figures of a result, as texts.
* `latencyTone`, `throughputTone`: why the figure in a place is coloured.
* `latencyRow`, `throughputRow`: the row of a sub-test with tones, and `plainLatencyRow`,
  `plainThroughputRow`: the row without.
* `latencyRowsCount`: whether a build that checks its sums can write the rows.

## Main statements

* `RowStatus.of_eq_ok_iff`: which rows show figures.
* `map_text_latencyRow`, `map_text_throughputRow`: the texts of a row do not depend on tones.
-/

namespace LoopGauge.Report

open Number

/-- On which side a cell is filled up. -/
inductive Alignment where
  | left
  | right
deriving DecidableEq, Repr

/-- A column of a table. -/
structure Column where
  header : String
  alignment : Alignment
  minWidth : Nat
deriving DecidableEq, Repr

namespace Column

def left (header : String) (minWidth : Nat) : Column := ⟨header, .left, minWidth⟩

def right (header : String) (minWidth : Nat) : Column := ⟨header, .right, minWidth⟩

end Column

/-- A cell: its text and why it is coloured, if it is. -/
structure Cell where
  text : String
  tone : Option Tone := none
deriving DecidableEq, Repr

/-- The columns before the figures. -/
def leadColumns : List Column := [.left "Test" 14, .left "Status" 7]

def latencyColumns (verbose : Bool) : List Column :=
  leadColumns ++ [
    .right "Samples" 7,
    .right "Min" 9,
    .right "Median" 9,
    .right "Mean" 9,
    .right "P99" 9,
    .right "Max" 9,
    .right "Jitter" 9,
    .right "Loss" 6] ++
  if verbose then [
    .right "P90" 9,
    .right "P95" 9,
    .right "P99.9" 9,
    .right "StdDev" 9]
  else []

def throughputColumns : List Column :=
  leadColumns ++ [
    .right "MiB/s" 9,
    .right "Mbit/s" 9,
    .right "Received" 10,
    .right "Sent" 10,
    .right "Delivered" 9,
    .right "Duration" 8]

/-- The figures of a latency result. -/
def latencyTexts (verbose : Bool) (r : LatencyResult) : List String :=
  [ decimal r.sampleCount.toNat,
    micros r.minUs,
    micros r.medianUs,
    micros r.meanUs,
    micros r.p99Us,
    micros r.maxUs,
    micros r.jitterUs,
    percentage r.lossPercentage] ++
  if verbose then [
    micros r.p90Us,
    micros r.p95Us,
    micros r.p999Us,
    micros r.stddevUs]
  else []

/-- The times that colour the figures, in the same order; not every figure has one. -/
def latencyTimes (r : LatencyResult) : List (Option Binary64) := [
  none,
  some r.minUs,
  some r.medianUs,
  some r.meanUs,
  some r.p99Us,
  some r.maxUs,
  none,
  none,
  some r.p90Us,
  some r.p95Us,
  some r.p999Us,
  none]

/-- Why the figure in a place is coloured: a time by its level, the loss in place 7 if there is
any. -/
def latencyTone (r : LatencyResult) (place : Nat) : Option Tone :=
  match place, (latencyTimes r)[place]?.join with
  | _, some us => some (.level (LatencyLevel.ofMicros us))
  | 7, none => if 0 < r.lostRounds then some (.role .warning) else none
  | _, none => none

/-- How good a percentage is. -/
def percentageRole (p : Binary64) : Role :=
  if (95 : Binary64).le p then .success else if (80 : Binary64).le p then .warning else .error

/-- The percentage of the sent bytes that arrived. -/
def delivered (r : ThroughputResult) : Binary64 := r.deliveryRatio * 100

/-- The figures of a throughput result. -/
def throughputTexts (r : ThroughputResult) : List String := [
  r.mibPerSec.fixed 1,
  r.mbitsPerSec.fixed 1,
  bytes r.bytesTransferred,
  bytes r.bytesSent,
  percentage (delivered r),
  r.durationSec.fixed 3 ++ "s"]

/-- Why the figure in a place is coloured: the rates always, what was delivered by how good it
is. -/
def throughputTone (r : ThroughputResult) : Nat → Option Tone
  | 0 | 1 => some (.role .success)
  | 4 => some (.role (percentageRole (delivered r)))
  | _ => none

/-- Texts with the tones of their places. -/
def toned (texts : List String) (tone : Nat → Option Tone) : List Cell :=
  texts.zipIdx.map fun (text, place) => ⟨text, tone place⟩

@[simp]
theorem map_text_toned (texts : List String) (tone : Nat → Option Tone) :
    (toned texts tone).map Cell.text = texts := by
  rw [toned, List.map_map]
  exact List.zipIdx_map_fst 0 texts

/-- How a sub-test is listed. -/
inductive RowStatus where
  | ok
  | failed
  | skipped
deriving DecidableEq, Repr

namespace RowStatus

def of (b : BenchResult) (t : SubTest) (enabled : List SubTest) : RowStatus :=
  if !enabled.contains t then skipped
  else if b.successOf t then ok
  else failed

theorem of_eq_ok_iff {b : BenchResult} {t : SubTest} {enabled : List SubTest} :
    of b t enabled = .ok ↔ t ∈ enabled ∧ b.successOf t := by
  rw [← List.contains_iff_mem, of]
  cases enabled.contains t <;> cases b.successOf t <;> simp

def name : RowStatus → String
  | ok => "ok"
  | failed => "failed"
  | skipped => "skipped"

def role : RowStatus → Role
  | ok => .success
  | failed => .error
  | skipped => .muted

def cell (s : RowStatus) : Cell := ⟨s.name, some (.role s.role)⟩

end RowStatus

/-- The row of a sub-test: its label, its status and, only if it succeeded, its figures. -/
def row {α : Type} (label : String → α) (state : RowStatus → α) (figures : Report → List α)
    (b : BenchResult) (enabled : List SubTest) (t : SubTest) : List α :=
  let status := RowStatus.of b t enabled
  label t.label :: state status :: if status = .ok then figures (b.get t) else []

section Row

variable {α β : Type} {label : String → α} {state : RowStatus → α} {figures : Report → List α}
  {b : BenchResult} {enabled : List SubTest} {t : SubTest}

theorem row_of_ok (h : RowStatus.of b t enabled = .ok) :
    row label state figures b enabled t = label t.label :: state .ok :: figures (b.get t) := by
  rw [row, h]
  rfl

theorem row_of_ne_ok (h : RowStatus.of b t enabled ≠ .ok) :
    row label state figures b enabled t = [label t.label, state (RowStatus.of b t enabled)] := by
  rw [row, if_neg h]

theorem map_row (f : α → β) :
    (row label state figures b enabled t).map f =
      row (f ∘ label) (f ∘ state) (fun r => (figures r).map f) b enabled t := by
  by_cases h : RowStatus.of b t enabled = .ok
  · rw [row_of_ok h, row_of_ok h]
    rfl
  · rw [row_of_ne_ok h, row_of_ne_ok h]
    rfl

end Row

/-- A row with tones. -/
def tonedRow (figures : Report → List Cell) : BenchResult → List SubTest → SubTest → List Cell :=
  row (⟨·, some (.role .info)⟩) RowStatus.cell figures

/-- A row without tones. -/
def plainRow (figures : Report → List String) :
    BenchResult → List SubTest → SubTest → List String :=
  row id RowStatus.name figures

def latencyRow (verbose : Bool) : BenchResult → List SubTest → SubTest → List Cell :=
  tonedRow fun
    | .latency r => toned (latencyTexts verbose r) (latencyTone r)
    | .throughput _ => []

def plainLatencyRow (verbose : Bool) : BenchResult → List SubTest → SubTest → List String :=
  plainRow fun
    | .latency r => latencyTexts verbose r
    | .throughput _ => []

def throughputRow : BenchResult → List SubTest → SubTest → List Cell :=
  tonedRow fun
    | .throughput r => toned (throughputTexts r) (throughputTone r)
    | .latency _ => []

def plainThroughputRow : BenchResult → List SubTest → SubTest → List String :=
  plainRow fun
    | .throughput r => throughputTexts r
    | .latency _ => []

theorem map_text_latencyRow (verbose : Bool) (b : BenchResult) (enabled : List SubTest)
    (t : SubTest) :
    (latencyRow verbose b enabled t).map Cell.text = plainLatencyRow verbose b enabled t := by
  rw [latencyRow, tonedRow, map_row, plainLatencyRow, plainRow]
  congr 1
  funext r
  cases r with
  | latency r => exact map_text_toned _ _
  | throughput r => rfl

theorem map_text_throughputRow (b : BenchResult) (enabled : List SubTest) (t : SubTest) :
    (throughputRow b enabled t).map Cell.text = plainThroughputRow b enabled t := by
  rw [throughputRow, tonedRow, map_row, plainThroughputRow, plainRow]
  congr 1
  funext r
  cases r with
  | latency r => rfl
  | throughput r => exact map_text_toned _ _

/-- The sub-tests in the latency table. -/
def latencyTests : List SubTest := [.tcpLatency, .udpLatency]

/-- Whether a build that checks its sums can write the figures of a report. -/
def counts : Report → Bool
  | .latency r => r.attempted?.isSome
  | .throughput _ => true

/-- Whether such a build can write the rows of the latency table. -/
def latencyRowsCount (b : BenchResult) (enabled : List SubTest) : Bool :=
  latencyTests.all fun t => RowStatus.of b t enabled ≠ .ok || (b.get t).counts

/-- The sub-tests in the throughput table. -/
def throughputTests : List SubTest := [.tcpThroughput, .udpThroughput]

end LoopGauge.Report
