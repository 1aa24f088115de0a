import LoopGauge.Proofs.Report.Aligned
import LoopGauge.Proofs.Report.Ruled

/-!
# Cells in columns

All lines of a table are cut alike. A column starts in the same place in every line and is as wide
as the widest text in it, so what stands in a column stands below its header. This holds of plain
tables, with borders and without, and of tables between rules once the escape sequences are taken
out.

## Main definitions

* `StandsAt line place text`: from a place on, a line has a text.
* `Grid`: where the columns of a table start and how wide they are.
* `Grid.Holds`: the cells of a line stand in their columns.

## Main statements

* `TableFormat.holds_line`: the lines of a plain table.
* `holds_drawnRow`: the lines of a table between rules.
* `TableFormat.pieces_draw_eq`, `pieces_drawRuled`: which lines a table has.
-/

namespace LoopGauge

open Style Text

/-- What is lost at the end of a text is blank. -/
theorem Text.exists_gap_trimEnd (cs : List Char) :
    ∃ gap, trimEnd cs ++ gap = cs ∧ ∀ c ∈ gap, isBlank c :=
  ⟨cs.rtakeWhile isBlank, List.rdropWhile_append_rtakeWhile .., fun _ => List.mem_rtakeWhile_imp⟩

theorem Text.trimEnd_append_of_ne_nil {cs ds : List Char} (hne : ds ≠ []) (h : trimEnd ds = ds) :
    trimEnd (cs ++ ds) = cs ++ ds := by
  refine List.rdropWhile_eq_self_iff.2 fun hall => ?_
  rw [List.getLast_append_of_ne_nil hall hne]
  exact List.rdropWhile_eq_self_iff.1 h hne

namespace Report

/-- From a place on, a line has a text. Blanks at the end of a line may be missing. -/
def StandsAt (line : List Char) (place : Nat) (text : List Char) : Prop :=
  ∃ before after gap, line ++ gap = before ++ text ++ after ∧ before.length = place ∧
    ∀ c ∈ gap, isBlank c

/-- How lines are cut into columns. -/
structure Grid where
  /-- How wide each column is. -/
  widths : List Nat
  /-- What is left free in front of the first column. -/
  margin : Nat
  /-- What is left free between two columns. -/
  gap : Nat

namespace Grid

/-- Where a column starts. -/
def start (g : Grid) (k : Nat) : Nat := g.margin + ((g.widths.take k).map (· + g.gap)).sum

/-- Each cell stands in its column, filled up to the width of that. -/
def Holds (g : Grid) (columns : List Column) (cells : List String) (line : List Char) : Prop :=
  ∀ (k : Nat) (h : k < cells.length), ∃ c n, columns[k]? = some c ∧ g.widths[k]? = some n ∧
    width cells[k] ≤ n ∧ StandsAt line (g.start k) (align c.alignment n cells[k]).toList

/-- There is a column for each cell, and it is wide enough. -/
structure Fits (columns : List Column) (widths : List Nat) (cells : List String) : Prop where
  length_le : cells.length ≤ columns.length
  length_widths : columns.length = widths.length
  width_le : ∀ (k : Nat) (h : k < cells.length) (h' : k < widths.length), width cells[k] ≤ widths[k]

variable {g : Grid} {columns : List Column} {widths : List Nat} {cells : List String}
  {line lead before after gap : List Char} {k : Nat}

/-- The cells, filled up to the widths of their columns. -/
def slots (columns : List Column) (widths : List Nat) (cells : List String) : List (List Char) :=
  (cells.zip (columns.zip widths)).map fun (s, c, n) => (align c.alignment n s).toList

theorem getElem_slots (hk : k < cells.length) (hc : k < columns.length) (hn : k < widths.length)
    (h : k < (slots columns widths cells).length) :
    (slots columns widths cells)[k] = (align columns[k].alignment widths[k] cells[k]).toList := by
  simp [slots]

theorem mem_align_of_mem {a : Alignment} {n : Nat} {s : String} {c : Char} (h : c ∈ s.toList) :
    c ∈ (align a n s).toList := by
  rw [TableFormat.toList_align]
  cases a with
  | left => exact List.mem_append_left _ h
  | right => exact List.mem_append_right _ h

theorem length_align {a : Alignment} {n : Nat} {s : String} (h : width s ≤ n) :
    (align a n s).toList.length = n := by
  rw [TableFormat.toList_align, TableFormat.length_filled]
  omega

namespace Fits

theorem length_slots (h : Fits columns widths cells) :
    (slots columns widths cells).length = cells.length := by
  have hlen := h.length_le
  have hwidths := h.length_widths
  simp only [slots, List.length_map, List.length_zip]
  omega

/-- Cells that fit are as wide as their columns. -/
theorem map_length_slots (h : Fits columns widths cells) (hk : k ≤ cells.length) :
    ((slots columns widths cells).take k).map List.length = widths.take k := by
  have hlen := h.length_le
  have hwidths := h.length_widths
  have hslots := h.length_slots
  apply List.ext_getElem
  · simp only [List.length_map, List.length_take]
    omega
  · intro i hi hi'
    have hcell : i < cells.length := by
      simp only [List.length_take] at hi'
      omega
    rw [List.getElem_map, List.getElem_take, List.getElem_take,
      getElem_slots hcell (by omega) (by omega), length_align (h.width_le i hcell _)]

/-- A line that is made of the cells holds them. -/
theorem holds (h : Fits columns g.widths cells) (hmargin : g.margin = lead.length + before.length)
    (hgap : g.gap = before.length + after.length) (hblank : ∀ c ∈ gap, isBlank c)
    (hline : line ++ gap =
      lead ++ (slots columns g.widths cells).flatMap fun s => before ++ s ++ after) :
    g.Holds columns cells line := by
  intro k hk
  have hc : k < columns.length := Nat.lt_of_lt_of_le hk h.length_le
  have hn : k < g.widths.length := h.length_widths ▸ hc
  have hslots : k < (slots columns g.widths cells).length := by rwa [h.length_slots]
  refine ⟨columns[k], g.widths[k], List.getElem?_eq_getElem hc, List.getElem?_eq_getElem hn,
    h.width_le k hk hn, ?_⟩
  let part (s : List Char) : List Char := before ++ s ++ after
  refine ⟨lead ++ ((slots columns g.widths cells).take k).flatMap part ++ before,
    after ++ ((slots columns g.widths cells).drop (k + 1)).flatMap part, gap, ?_, ?_, hblank⟩
  · have hcut := List.take_append_drop k (slots columns g.widths cells)
    rw [List.drop_eq_getElem_cons hslots, getElem_slots hk hc hn] at hcut
    rw [hline]
    conv_lhs => rw [← hcut, List.flatMap_append, List.flatMap_cons]
    simp only [List.append_assoc, part]
  · have hsum : ((slots columns g.widths cells).take k).map (fun s => (part s).length) =
        (g.widths.take k).map (· + g.gap) := by
      rw [← h.map_length_slots (Nat.le_of_lt hk), List.map_map]
      refine List.map_congr_left fun s _ => ?_
      simp only [part, List.length_append, Function.comp_apply]
      omega
    rw [List.length_append, List.length_append, List.length_flatMap, hsum, start]
    omega

end Fits

theorem Holds.mem (h : g.Holds columns cells line) {cell : String} (hcell : cell ∈ cells) {c : Char}
    (hc : c ∈ cell.toList) (hblank : ¬isBlank c) : c ∈ line := by
  obtain ⟨k, hk, rfl⟩ := List.getElem_of_mem hcell
  obtain ⟨column, n, -, -, -, before, after, gap, hline, -, hgap⟩ := h k hk
  have hmem : c ∈ line ++ gap := by
    rw [hline]
    exact List.mem_append_left _ (List.mem_append_right _ (mem_align_of_mem hc))
  exact (List.mem_append.1 hmem).resolve_right fun hgapped => hblank (hgap c hgapped)

end Grid

open Grid

variable {columns : List Column} {rows : List (List String)} {row cells : List String}
  {widths : List Nat}

theorem fits_row (hrow : row ∈ rows) (h : row.length ≤ columns.length) :
    Fits columns (columnWidths columns.length columns rows) row :=
  ⟨h, length_columnWidths.symm, fun _ hk hk' => width_cell_le hrow hk hk'⟩

theorem fits_headers (columns : List Column) (rows : List (List String)) :
    Fits columns (columnWidths columns.length columns rows) (columns.map Column.header) := by
  refine ⟨by simp, length_columnWidths.symm, fun k hk hk' => ?_⟩
  rw [List.getElem_map]
  exact width_header_le (by simpa using hk) hk'

namespace TableFormat

variable {f : TableFormat}

/-- How a plain table is cut. -/
def grid (f : TableFormat) (widths : List Nat) : Grid :=
  if f.borders then ⟨widths, 2, 3⟩ else ⟨widths, 0, 2⟩

/-- Rows that are not longer need no columns besides those that are declared. -/
theorem widths_eq (h : ∀ row ∈ rows, row.length ≤ f.columns.length) :
    f.widths rows = columnWidths f.columns.length f.columns rows := by
  have hcount : f.columnCount rows = f.columns.length := by
    refine Nat.le_antisymm ?_ (le_foldl_max List.mem_cons_self)
    have hmem : f.columnCount rows ∈ f.columns.length :: rows.map List.length :=
      (List.max?_eq_some_iff.1 List.max?_cons').1
    obtain heq | hmem := List.mem_cons.1 hmem
    · exact Nat.le_of_eq heq
    · obtain ⟨row, hrow, hlength⟩ := List.mem_map.1 hmem
      exact hlength ▸ h row hrow
  rw [widths, hcount]

theorem alignments_eq (f : TableFormat) :
    f.alignments f.columns.length = f.columns.map Column.alignment := by
  apply List.ext_getElem
  · simp [alignments]
  · intro k hk hk'
    have hcolumn : k < f.columns.length := by simpa using hk'
    simp [alignments, hcolumn]

/-- The cells of a line with what separates them, given what stands before and after a cell. -/
theorem toList_parts (before after : List Char) (h : Fits f.columns widths cells)
    (hcell : ∀ a n s, (f.cellText a n s).toList = before ++ (align a n s).toList ++ after) :
    (String.join ((cells.zip ((f.alignments widths.length).zip widths)).map fun (s, a, n) =>
      f.cellText a n s)).toList =
      (slots f.columns widths cells).flatMap fun s => before ++ s ++ after := by
  rw [toList_join_map, ← h.length_widths, alignments_eq, List.zip_map_left, List.zip_map_right,
    slots, List.flatMap_map, List.flatMap_map]
  simp only [Prod.map, id_eq, hcell]

/-- The cells of a line of a plain table stand in their columns. -/
theorem holds_line (h : Fits f.columns widths cells) :
    (f.grid widths).Holds f.columns cells (f.line widths cells).toList := by
  rw [grid, line, trimmedEnd, String.toList_ofList]
  by_cases hborders : f.borders
  · rw [if_pos hborders, if_pos hborders, String.toList_append,
      toList_parts [' '] [' ', '|'] h fun a n s => ?_]
    · obtain ⟨gap, hgap, hblank⟩ := exists_gap_trimEnd ("|".toList ++ _)
      exact h.holds rfl rfl hblank hgap
    · simp [cellText, hborders]
  · rw [if_neg hborders, if_neg hborders, String.toList_append,
      toList_parts [] [' ', ' '] h fun a n s => ?_]
    · obtain ⟨gap, hgap, hblank⟩ := exists_gap_trimEnd ("".toList ++ _)
      exact h.holds rfl rfl hblank hgap
    · simp [cellText, hborders]

theorem tame_line (h : ∀ cell ∈ cells, Tame cell) : Tame (f.line widths cells) := by
  have hparts : Tame (String.join
      ((cells.zip ((f.alignments widths.length).zip widths)).map fun (s, a, n) =>
        f.cellText a n s)) := by
    intro c hc
    rw [toList_join_map, List.mem_flatMap] at hc
    obtain ⟨⟨s, a, n⟩, hslot, hc⟩ := hc
    have hcell : Tame (f.cellText a n s) := by
      have haligned := tame_align a n (h s (List.of_mem_zip hslot).1)
      rw [cellText]
      split
      · exact tame_append.2 ⟨tame_append.2 ⟨by decide, haligned⟩, by decide⟩
      · exact tame_append.2 ⟨haligned, by decide⟩
    exact hcell c hc
  refine tame_trimmedEnd (tame_append.2 ⟨?_, hparts⟩)
  split <;> decide

theorem tame_border (widths : List Nat) : Tame (border widths) := by
  by_cases h : widths = []
  · rw [h]
    decide
  · intro c hc
    rw [toList_border h] at hc
    obtain rfl | rfl := mem_rule hc <;> decide

theorem tame_lines (hheaders : ∀ c ∈ f.columns, Tame c.header)
    (hcells : ∀ row ∈ rows, ∀ cell ∈ row, Tame cell) : ∀ line ∈ f.lines rows, Tame line := by
  have hborders : ∀ line ∈ if f.borders then [border (f.widths rows)] else [], Tame line := by
    split
    · exact List.forall_mem_singleton.2 (tame_border _)
    · exact nofun
  have hheader : ∀ line ∈ f.headerLines (f.widths rows), Tame line := by
    rw [headerLines]
    split
    · refine List.forall_mem_append.2 ⟨List.forall_mem_append.2 ⟨hborders, ?_⟩, hborders⟩
      exact List.forall_mem_singleton.2 (tame_line (List.forall_mem_map.2 hheaders))
    · exact nofun
  refine List.forall_mem_append.2 ⟨List.forall_mem_append.2 ⟨hheader, ?_⟩, hborders⟩
  exact List.forall_mem_map.2 fun row hrow => tame_line (hcells row hrow)

/-- Nothing is lost at the end of lines if nothing is lost at the end of the last. -/
theorem trimEnd_join_concat (init : List String) {last : String} (hne : last.toList ≠ [])
    (hlast : trimEnd last.toList = last.toList) :
    trimEnd (join "\n" (init ++ [last])).toList = (join "\n" (init ++ [last])).toList := by
  by_cases hinit : init = []
  · rw [hinit, List.nil_append, join, String.intercalate_singleton, hlast]
  · rw [join_concat hinit, ← List.singleton_append, ← List.append_assoc]
    exact trimEnd_append_of_ne_nil hne hlast

/-- The last line has something at its end that is no blank. -/
theorem exists_last_line (hne : rows ≠ [])
    (hfits : ∀ row ∈ rows, Fits f.columns (f.widths rows) row)
    (hsolid : ∀ row ∈ rows, ∃ cell ∈ row, ∃ c ∈ cell.toList, ¬isBlank c) :
    ∃ init last, f.lines rows = init ++ [last] ∧ last.toList ≠ [] ∧
      trimEnd last.toList = last.toList := by
  obtain ⟨above, row, hrows⟩ := (List.eq_nil_or_concat' rows).resolve_left hne
  have hrow : row ∈ rows := hrows ▸ List.mem_append_right above List.mem_cons_self
  obtain ⟨cell, hcell, c, hc, hblank⟩ := hsolid row hrow
  by_cases hborders : f.borders
  · have hwidths : f.widths rows ≠ [] := by
      intro h
      rw [(widths_eq_nil_iff.1 h).2 row hrow] at hcell
      cases hcell
    obtain ⟨cs, hcs⟩ := rule_eq_concat (f.widths rows)
    refine ⟨f.upperLines rows, border (f.widths rows), ?_, ?_, ?_⟩
    · rw [lines, if_pos hborders]
      rfl
    · rw [toList_border hwidths, hcs]
      simp
    · rw [toList_border hwidths, hcs]
      exact trimEnd_concat_of_not cs (by decide)
  · refine ⟨f.headerLines (f.widths rows) ++ above.map (f.line (f.widths rows)),
      f.line (f.widths rows) row, ?_, ?_, ?_⟩
    · rw [lines, if_neg hborders, List.append_nil]
      conv_lhs => rw [hrows, List.map_append, List.map_singleton, ← hrows]
      rw [List.append_assoc]
    · exact List.ne_nil_of_mem ((holds_line (hfits row hrow)).mem hcell hc hblank)
    · rw [line, trimmedEnd, String.toList_ofList, trimEnd_trimEnd]

/-- A plain table has the lines that it is drawn with if no row is blank. -/
theorem pieces_draw_eq (hne : rows ≠ []) (hheaders : ∀ c ∈ f.columns, Tame c.header)
    (hcells : ∀ row ∈ rows, ∀ cell ∈ row, Tame cell)
    (hfits : ∀ row ∈ rows, Fits f.columns (f.widths rows) row)
    (hsolid : ∀ row ∈ rows, ∃ cell ∈ row, ∃ c ∈ cell.toList, ¬isBlank c) :
    pieces '\n' (f.draw rows).toList = (f.lines rows).map String.toList := by
  obtain ⟨init, last, hlines, hlast, hkept⟩ := exists_last_line hne hfits hsolid
  have hdraw : (f.draw rows).toList = (join "\n" (f.lines rows)).toList := by
    rw [draw, if_neg (by simpa using hne), trimmedEnd, String.toList_ofList, hlines]
    exact trimEnd_join_concat init hlast hkept
  rw [hdraw]
  exact pieces_join (fun line hline => (tame_lines hheaders hcells line hline).feed_not_mem)
    (by simp [hlines])

end TableFormat

section Ruled

variable {brush : Brush} {cells : List Cell} {rows : List (List Cell)}

/-- How a table between rules is cut. -/
def ruledGrid (widths : List Nat) : Grid := ⟨widths, 0, 2⟩

theorem toList_join_append {sep : String} {parts : List String} (hne : parts ≠ []) :
    (join sep parts).toList ++ sep.toList = parts.flatMap fun s => s.toList ++ sep.toList := by
  induction parts with
  | nil => exact absurd rfl hne
  | cons first rest ih =>
    cases rest with
    | nil => simp [join]
    | cons second rest =>
      rw [List.flatMap_cons, ← ih (List.cons_ne_nil second rest), join,
        String.intercalate_cons_cons]
      simp [join]

/-- Without escape sequences, the cells of a row between rules stand in their columns. -/
theorem holds_drawnRow (hbrush : brush.Faithful) (h : Fits columns widths (cells.map Cell.text))
    (htame : ∀ cell ∈ cells, Tame cell.text) :
    (ruledGrid widths).Holds columns (cells.map Cell.text)
      (unstyled (drawnRow brush columns widths cells)).toList := by
  let drawn : List String := (cells.zip (columns.zip widths)).map (drawnCell .dry)
  obtain ⟨shown, gap, hshown, hgap, hstyling⟩ :=
    Styling.trimEnd (join_drawnCell_styles columns widths hbrush htame)
  have hline : (unstyled (drawnRow brush columns widths cells)).toList = shown := by
    rw [unstyled, drawnRow, trimmedEnd, String.toList_ofList, String.toList_ofList,
      hstyling.dropSequences_eq]
  have hslots : slots columns (ruledGrid widths).widths (cells.map Cell.text) =
      drawn.map String.toList := by
    rw [slots, ruledGrid, List.zip_map_left, List.map_map, List.map_map]
    refine List.map_congr_left fun slot _ => ?_
    rw [Function.comp_apply, Function.comp_apply, drawnCell_dry]
    rfl
  rw [hline]
  by_cases hne : drawn = []
  · have hcells : cells.map Cell.text = [] := by
      have hlength : (slots columns widths (cells.map Cell.text)).length = 0 :=
        congrArg List.length (hslots.trans (congrArg _ hne))
      exact List.length_eq_zero_iff.1 (h.length_slots ▸ hlength)
    rw [hcells]
    exact fun k hk => absurd hk (Nat.not_lt_zero k)
  · have hspace : isBlank ' ' := by decide
    have hblank : ∀ c ∈ gap ++ [' ', ' '], isBlank c :=
      List.forall_mem_append.2
        ⟨hgap, List.forall_mem_cons.2 ⟨hspace, List.forall_mem_singleton.2 hspace⟩⟩
    have hcells : shown ++ (gap ++ [' ', ' ']) = [] ++
        (slots columns (ruledGrid widths).widths (cells.map Cell.text)).flatMap fun s =>
          [] ++ s ++ [' ', ' '] := by
      rw [← List.append_assoc, ← hshown, hslots, List.flatMap_map]
      exact toList_join_append hne
    exact h.holds rfl rfl hblank hcells

/-- The headers, as a row of cells. -/
def headerCells (columns : List Column) : List Cell := columns.map fun c => ⟨c.header, none⟩

/-- The rule above and below the rows. -/
def drawnRule (brush : Brush) (widths : List Nat) : String :=
  brush.tone (.role .border) (repeated (Number.total widths + 2 * widths.length) '─')

/-- The lines of a table between rules. -/
def ruledLines (brush : Brush) (columns : List Column) (rows : List (List Cell)) : List String :=
  let widths := columnWidths columns.length columns (rows.map (·.map Cell.text))
  brush.bold (drawnRow .dry columns widths (headerCells columns)) :: drawnRule brush widths ::
    rows.map (drawnRow brush columns widths) ++ [drawnRule brush widths]

theorem drawRuled_eq (brush : Brush) (columns : List Column) (rows : List (List Cell)) :
    drawRuled brush columns rows = join "\n" (ruledLines brush columns rows) := by
  have hheader : (headerCells columns).zip (columns.zip
      (columnWidths columns.length columns (rows.map (·.map Cell.text)))) =
      (columns.zip (columnWidths columns.length columns (rows.map (·.map Cell.text)))).map
        fun slot => (⟨slot.1.header, none⟩, slot) := by
    rw [headerCells, List.zip_map_left]
    apply List.ext_getElem <;> simp
  rw [ruledLines, drawnRow, hheader, List.map_map]
  rfl

theorem dry_faithful : Brush.dry.Faithful := ⟨fun _ _ hs => .of_not_mem hs, .of_not_mem⟩

/-- So do the headers above them. -/
theorem holds_header (hbrush : brush.Faithful) (rows : List (List Cell))
    (hcolumns : ∀ c ∈ columns, Tame c.header) :
    let widths := columnWidths columns.length columns (rows.map (·.map Cell.text))
    (ruledGrid widths).Holds columns (columns.map Column.header)
      (unstyled (brush.bold (drawnRow .dry columns widths (headerCells columns)))).toList := by
  intro widths
  have htexts : (headerCells columns).map Cell.text = columns.map Column.header :=
    List.map_map
  have htame : ∀ cell ∈ headerCells columns, Tame cell.text := List.forall_mem_map.2 hcolumns
  have hheader : '\x1b' ∉ (drawnRow .dry columns widths (headerCells columns)).toList :=
    (tame_trimmedEnd (tame_join_drawnCell _ _ htame)).escape_not_mem
  rw [(hbrush.bold hheader).unstyled_eq, ← (Styles.of_not_mem hheader).unstyled_eq, ← htexts]
  refine holds_drawnRow dry_faithful ?_ htame
  rw [htexts]
  exact fits_headers columns _

theorem feed_not_mem_ruledLines (hbrush : brush.Faithful) (hcolumns : ∀ c ∈ columns, Tame c.header)
    (hrows : ∀ cells ∈ rows, ∀ cell ∈ cells, Tame cell.text) :
    ∀ line ∈ ruledLines brush columns rows, '\n' ∉ line.toList := by
  have hstyled {s p : String} (h : Styles s p) (hp : Tame p) : '\n' ∉ s.toList :=
    Styling.feed_not_mem h hp.feed_not_mem
  have htame : ∀ cell ∈ headerCells columns, Tame cell.text := List.forall_mem_map.2 hcolumns
  have hheader (widths : List Nat) := tame_trimmedEnd (tame_join_drawnCell columns widths htame)
  have hrule (n : Nat) := tame_repeated n (c := '─') (by decide)
  have hruled (n : Nat) : '\n' ∉ (brush.tone (.role .border) (repeated n '─')).toList :=
    hstyled (hbrush.tone _ (hrule n).escape_not_mem) (hrule n)
  refine List.forall_mem_append.2 ⟨List.forall_mem_cons.2 ⟨?_, ?_⟩,
    List.forall_mem_singleton.2 (hruled _)⟩
  · exact hstyled (hbrush.bold (hheader _).escape_not_mem) (hheader _)
  · refine List.forall_mem_cons.2 ⟨hruled _, List.forall_mem_map.2 fun cells hcells hfeed => ?_⟩
    rw [drawnRow, trimmedEnd, String.toList_ofList] at hfeed
    exact hstyled (join_drawnCell_styles _ _ hbrush (hrows cells hcells))
      (tame_join_drawnCell _ _ (hrows cells hcells)) (mem_of_mem_trimEnd hfeed)

/-- A table between rules has the lines that it is drawn with. -/
theorem pieces_drawRuled (hbrush : brush.Faithful) (hcolumns : ∀ c ∈ columns, Tame c.header)
    (hrows : ∀ cells ∈ rows, ∀ cell ∈ cells, Tame cell.text) :
    pieces '\n' (drawRuled brush columns rows).toList =
      (ruledLines brush columns rows).map String.toList := by
  rw [drawRuled_eq]
  exact pieces_join (feed_not_mem_ruledLines hbrush hcolumns hrows) (List.cons_ne_nil _ _)

end Ruled

end Report

end LoopGauge
