import LoopGauge.Proofs.Report.Grid
import LoopGauge.Proofs.Report.Presentation
import LoopGauge.Proofs.Result.Slots

/-!
# Figures under their headers

The headers of the latency table, the texts of a result and the times that colour them are lists
that only their order keeps in step. What a header promises is said here without that order: which
figure it names, how the figure is written and in which colour. The lists agree with it in every
place, in the short form of the table and in the long one, and either table shows each figure below
its header.

## Main definitions

* `Under`: what belongs under a header.
* `LaidOut`: header and rows of a table are cut alike.

## Main statements

* `latencyRow_under`: the figures of a row belong under the headers of the columns.
* `Formatter.figures_under_headers`: rows and tables.
-/

namespace LoopGauge.Report

open Number Style Text

/-- The colour of a cell, if it has one. -/
def Cell.colour (scheme : Scheme) (cell : Cell) : Option Colour :=
  cell.tone.map (Tone.colour scheme)

/-- The times of a result that headers name. -/
def namedTimes (r : LatencyResult) : List (String × Binary64) := [
  ("Min", r.minUs), ("Max", r.maxUs), ("Mean", r.meanUs), ("Median", r.medianUs),
  ("P90", r.p90Us), ("P95", r.p95Us), ("P99", r.p99Us), ("P99.9", r.p999Us)]

/-- What belongs under a header in the row of a sub-test that succeeded: a text and its colour. -/
inductive Under (scheme : Scheme) (t : SubTest) (r : LatencyResult) :
    String → String → Option Colour → Prop where
  | test : Under scheme t r "Test" t.label (some scheme.info)
  | status : Under scheme t r "Status" "ok" (some scheme.success)
  | samples : Under scheme t r "Samples" (decimal r.sampleCount.toNat) none
  | time {header : String} {us : Binary64} (named : (header, us) ∈ namedTimes r) :
    Under scheme t r header (micros us) (some (LatencyLevel.ofMicros us).colour)
  | jitter : Under scheme t r "Jitter" (micros r.jitterUs) none
  | deviation : Under scheme t r "StdDev" (micros r.stddevUs) none
  | loss : Under scheme t r "Loss" (percentage r.lossPercentage)
      (if 0 < r.lostRounds then some scheme.warning else none)

variable {verbose : Bool} {b : BenchResult} {enabled : List SubTest} {t : SubTest}
  {r : LatencyResult}

section Rows

/-- A figure with a time has the colour of its level. -/
theorem under_time (scheme : Scheme) (t : SubTest) {header : String} {us : Binary64} (place : Nat)
    (named : (header, us) ∈ namedTimes r) (h : (latencyTimes r)[place]? = some (some us)) :
    let cell : Cell := ⟨micros us, latencyTone r place⟩
    Under scheme t r header cell.text (cell.colour scheme) := by
  intro cell
  have hcolour : cell.colour scheme = some (LatencyLevel.ofMicros us).colour := by
    have hjoin : (latencyTimes r)[place]?.join = some us := by rw [h, Option.join_some]
    unfold cell Cell.colour latencyTone
    rw [hjoin]
    rfl
  rw [hcolour]
  exact .time named

theorem under_loss (scheme : Scheme) (t : SubTest) (r : LatencyResult) :
    let cell : Cell := ⟨percentage r.lossPercentage, latencyTone r 7⟩
    Under scheme t r "Loss" cell.text (cell.colour scheme) := by
  intro cell
  have hcolour : cell.colour scheme = if 0 < r.lostRounds then some scheme.warning else none := by
    have htone : latencyTone r 7 = if 0 < r.lostRounds then some (.role .warning) else none := rfl
    unfold cell Cell.colour
    rw [htone]
    split <;> rfl
  rw [hcolour]
  dsimp only [cell]
  exact .loss

theorem take_toned (n : Nat) (texts : List String) (tone : Nat → Option Tone) :
    (toned texts tone).take n = toned (texts.take n) tone := by
  apply List.ext_getElem <;> simp [toned]

/-- The headers, the texts and the times that colour them are in step. -/
theorem toned_under (scheme : Scheme) (verbose : Bool) (t : SubTest) (r : LatencyResult) :
    List.Forall₂ (fun column cell => Under scheme t r column.header cell.text (cell.colour scheme))
      (latencyColumns verbose)
      (⟨t.label, some (.role .info)⟩ :: RowStatus.ok.cell ::
        toned (latencyTexts verbose r) (latencyTone r)) := by
  have hlong : List.Forall₂
      (fun column cell => Under scheme t r column.header cell.text (cell.colour scheme))
      (latencyColumns true)
      (⟨t.label, some (.role .info)⟩ :: RowStatus.ok.cell ::
        toned (latencyTexts true r) (latencyTone r)) := by
    simp only [latencyColumns, leadColumns, Column.left, Column.right, toned, latencyTexts,
      if_true, List.cons_append, List.nil_append, List.zipIdx_cons, List.zipIdx_nil, List.map_cons,
      List.map_nil, Nat.reduceAdd]
    exact .cons .test <| .cons .status <| .cons .samples <|
      .cons (under_time scheme t 1 (by simp [namedTimes]) rfl) <|
      .cons (under_time scheme t 2 (by simp [namedTimes]) rfl) <|
      .cons (under_time scheme t 3 (by simp [namedTimes]) rfl) <|
      .cons (under_time scheme t 4 (by simp [namedTimes]) rfl) <|
      .cons (under_time scheme t 5 (by simp [namedTimes]) rfl) <|
      .cons .jitter <| .cons (under_loss scheme t r) <|
      .cons (under_time scheme t 8 (by simp [namedTimes]) rfl) <|
      .cons (under_time scheme t 9 (by simp [namedTimes]) rfl) <|
      .cons (under_time scheme t 10 (by simp [namedTimes]) rfl) <|
      .cons .deviation .nil
  -- The short form of the table is the beginning of the long one.
  cases verbose with
  | true => exact hlong
  | false =>
    have hcolumns : latencyColumns false = (latencyColumns true).take 10 := by decide
    have htexts : latencyTexts false r = (latencyTexts true r).take 8 := by simp [latencyTexts]
    have hshort := List.forall₂_take 10 hlong
    rwa [List.take_succ_cons, List.take_succ_cons, take_toned, ← hcolumns, ← htexts] at hshort

/-- Every figure of a row belongs under its header. -/
theorem latencyRow_under (scheme : Scheme) (verbose : Bool) (hr : b.get t = .latency r)
    (h : t ∈ enabled ∧ b.successOf t) :
    List.Forall₂ (fun column cell => Under scheme t r column.header cell.text (cell.colour scheme))
      (latencyColumns verbose) (latencyRow verbose b enabled t) := by
  rw [latencyRow, tonedRow, row_of_ok (RowStatus.of_eq_ok_iff.2 h), hr]
  exact toned_under scheme verbose t r

/-- A row without figures has its label and its status only. -/
theorem latencyRow_of_not (h : ¬(t ∈ enabled ∧ b.successOf t)) :
    latencyRow verbose b enabled t =
      [⟨t.label, some (.role .info)⟩, (RowStatus.of b t enabled).cell] := by
  rw [latencyRow, tonedRow, row_of_ne_ok (RowStatus.of_eq_ok_iff.not.2 h)]

theorem length_latencyTexts (verbose : Bool) (r : LatencyResult) :
    (latencyTexts verbose r).length + 2 = (latencyColumns verbose).length := by
  cases verbose <;> simp [latencyTexts, latencyColumns, leadColumns]

theorem length_plainLatencyRow_le (verbose : Bool) (b : BenchResult) (enabled : List SubTest)
    (t : SubTest) :
    (plainLatencyRow verbose b enabled t).length ≤ (latencyColumns verbose).length := by
  have hlead : 2 ≤ (latencyColumns verbose).length := by cases verbose <;> decide
  by_cases h : RowStatus.of b t enabled = .ok
  · rw [plainLatencyRow, plainRow, row_of_ok h]
    cases b.get t with
    | latency r => exact Nat.le_of_eq (length_latencyTexts verbose r)
    | throughput r => exact hlead
  · rw [plainLatencyRow, plainRow, row_of_ne_ok h]
    exact hlead

/-- The label of a row is not blank. -/
theorem exists_not_isBlank_mem_row (verbose : Bool) (b : BenchResult) (enabled : List SubTest)
    (t : SubTest) :
    ∃ cell ∈ plainLatencyRow verbose b enabled t, ∃ c ∈ cell.toList, ¬isBlank c := by
  refine ⟨t.label, List.mem_cons_self, ?_⟩
  cases t with
  | tcpLatency | tcpThroughput => exact ⟨'T', by decide, by decide⟩
  | udpLatency | udpThroughput => exact ⟨'U', by decide, by decide⟩

end Rows

/-- Header and rows of a table are cut alike, and their cells stand in the columns. -/
structure LaidOut (g : Grid) (columns : List Column) (rows : List (List String)) (header : String)
    (body : List String) : Prop where
  header : g.Holds columns (columns.map Column.header) header.toList
  body : List.Forall₂ (fun cells line => g.Holds columns cells line.toList) rows body

namespace Formatter

section Lines

variable (ink : Ink) (o : Options) (scheme : Scheme) (b : BenchResult) (enabled : List SubTest)

/-- The lines of the plain table. -/
theorem plain_latencyTable_laidOut :
    let columns := latencyColumns o.verbose
    let texts := latencyTests.map (plainLatencyRow o.verbose b enabled)
    ∃ g header rule body,
      pieces '\n' ((plain o).latencyTable b enabled).toList =
        (rule ++ header :: rule ++ body ++ rule).map String.toList ∧
      (rule = if o.borders then [TableFormat.border g.widths] else []) ∧
      body = texts.map (TableFormat.line ⟨columns, o.borders, true⟩ g.widths) ∧
      LaidOut g columns texts header body := by
  intro columns texts
  let f : TableFormat := ⟨columns, o.borders, true⟩
  have hlength : ∀ row ∈ texts, row.length ≤ columns.length :=
    List.forall_mem_map.2 fun t _ => length_plainLatencyRow_le o.verbose b enabled t
  have hwidths : f.widths texts = columnWidths columns.length columns texts :=
    TableFormat.widths_eq hlength
  have hfits : ∀ row ∈ texts, Grid.Fits columns (f.widths texts) row := by
    intro row hrow
    rw [hwidths]
    exact fits_row hrow (hlength row hrow)
  have hgrid : (f.grid (f.widths texts)).widths = f.widths texts := by
    unfold TableFormat.grid
    split <;> rfl
  refine ⟨f.grid (f.widths texts), f.line (f.widths texts) (columns.map Column.header),
    if o.borders then [TableFormat.border (f.widths texts)] else [],
    texts.map (f.line (f.widths texts)), ?_, by rw [hgrid], by rw [hgrid], ?_, ?_⟩
  · have hlines : pieces '\n' (f.draw texts).toList = (f.lines texts).map String.toList :=
      TableFormat.pieces_draw_eq (List.cons_ne_nil _ _) (tame_latencyColumns o.verbose)
        (List.forall_mem_map.2 fun t _ => tame_plainLatencyRow o.verbose b enabled t) hfits
        (List.forall_mem_map.2 fun t _ => exists_not_isBlank_mem_row o.verbose b enabled t)
    refine hlines.trans (congrArg _ ?_)
    have hcolumns : f.columns.isEmpty = false := by cases o.verbose <;> rfl
    simp [TableFormat.lines, TableFormat.headerLines, hcolumns, f]
  · refine TableFormat.holds_line (f := f) ?_
    rw [hwidths]
    exact fits_headers columns texts
  · rw [List.forall₂_map_right_iff, List.forall₂_same]
    exact fun row hrow => TableFormat.holds_line (f := f) (hfits row hrow)

/-- The lines of the coloured table. -/
theorem coloured_latencyTable_laidOut :
    let columns := latencyColumns o.verbose
    let row := latencyRow o.verbose b enabled
    ∃ g header rule body,
      pieces '\n' ((coloured ink o scheme).latencyTable b enabled).toList =
        (header :: rule :: body ++ [rule]).map String.toList ∧
      body = latencyTests.map (fun t => drawnRow (brush ink o scheme) columns g.widths (row t)) ∧
      LaidOut g columns (latencyTests.map (plainLatencyRow o.verbose b enabled)) (unstyled header)
        (body.map unstyled) := by
  intro columns row
  have hbrush := brush_faithful ink o scheme
  have htame := tame_latencyRow o.verbose b enabled
  let rows := latencyTests.map row
  let widths := columnWidths columns.length columns (rows.map (·.map Cell.text))
  refine ⟨ruledGrid widths, _, drawnRule (brush ink o scheme) widths, _, ?_, rfl,
    holds_header hbrush rows (tame_latencyColumns o.verbose), ?_⟩
  · exact pieces_drawRuled hbrush (tame_latencyColumns _) (List.forall_mem_map.2 fun t _ => htame t)
  · rw [List.map_map, List.forall₂_map_left_iff, List.forall₂_map_right_iff, List.forall₂_same]
    intro t ht
    have htexts := map_text_latencyRow o.verbose b enabled t
    have hrow : (row t).map Cell.text ∈ rows.map (·.map Cell.text) :=
      List.mem_map_of_mem (List.mem_map_of_mem ht)
    rw [← htexts]
    refine holds_drawnRow hbrush (fits_row hrow ?_) (htame t)
    rw [htexts]
    exact length_plainLatencyRow_le o.verbose b enabled t

end Lines

/-- **Figures stand under their headers**. No two columns of the latency table have the same header.
The row of a sub-test that is enabled and succeeded has, column by column, the text and the colour
that belong under the header; any other row has only its label and its status. The plain rows have
the same texts. The coloured table and the plain one show these texts in columns, each below its
header. -/
theorem figures_under_headers (ink : Ink) (o : Options) (scheme : Scheme) (b : BenchResult)
    (enabled : List SubTest) :
    let columns := latencyColumns o.verbose
    let row := latencyRow o.verbose b enabled
    let plainRow := plainLatencyRow o.verbose b enabled
    (columns.map Column.header).Nodup ∧
    (∀ t r, b.get t = .latency r → t ∈ enabled → r.success →
      List.Forall₂
        (fun column cell => Under scheme t r column.header cell.text (cell.colour scheme))
        columns (row t)) ∧
    (∀ t, ¬(t ∈ enabled ∧ b.successOf t) →
      row t = [⟨t.label, some (.role .info)⟩, (RowStatus.of b t enabled).cell]) ∧
    (∀ t, plainRow t = (row t).map Cell.text) ∧
    (∃ g header rule body,
      pieces '\n' ((coloured ink o scheme).latencyTable b enabled).toList =
        (header :: rule :: body ++ [rule]).map String.toList ∧
      body = latencyTests.map (fun t => drawnRow (brush ink o scheme) columns g.widths (row t)) ∧
      LaidOut g columns (latencyTests.map plainRow) (unstyled header) (body.map unstyled)) ∧
    ∃ g header rule body,
      pieces '\n' ((plain o).latencyTable b enabled).toList =
        (rule ++ header :: rule ++ body ++ rule).map String.toList ∧
      (rule = if o.borders then [TableFormat.border g.widths] else []) ∧
      body = (latencyTests.map plainRow).map
        (TableFormat.line ⟨columns, o.borders, true⟩ g.widths) ∧
      LaidOut g columns (latencyTests.map plainRow) header body := by
  refine ⟨?_, fun t r hr ht hsuccess => ?_, fun t => latencyRow_of_not,
    fun t => (map_text_latencyRow o.verbose b enabled t).symm,
    coloured_latencyTable_laidOut ink o scheme b enabled, plain_latencyTable_laidOut o b enabled⟩
  · cases o.verbose <;> decide
  · refine latencyRow_under scheme o.verbose hr ⟨ht, ?_⟩
    rw [BenchResult.successOf_eq, hr]
    exact hsuccess

/-- A round over TCP was lost and the sub-test over UDP left out, in the long form of the table. -/
theorem figures_under_headers_lossy :
    let b : BenchResult := { tcpLatency := { sampleCount := 3, lostRounds := 1, success := true } }
    let row := latencyRow true b [.tcpLatency]
    List.Forall₂
      (fun column cell =>
        Under {} .tcpLatency b.tcpLatency column.header cell.text (cell.colour {}))
      (latencyColumns true) (row .tcpLatency) ∧
    row .udpLatency = [⟨"UDP latency", some (.role .info)⟩, RowStatus.skipped.cell] := by
  intro b row
  obtain ⟨-, hrow, hskipped, -⟩ :=
    figures_under_headers .ansi { verbose := true } {} b [.tcpLatency]
  exact ⟨hrow .tcpLatency b.tcpLatency rfl (by decide) rfl, hskipped .udpLatency (by decide)⟩

end Formatter

end LoopGauge.Report
