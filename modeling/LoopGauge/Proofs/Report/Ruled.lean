import LoopGauge.Proofs.Report.Tame
import LoopGauge.Proofs.Style.Styling

/-!
# Tables between rules, with colours and without

Cells are filled up before they are coloured and rows lose the blanks at their ends after that, so
a coloured cell at the end of a row keeps the blanks that a plain one loses. This is the only
difference that colours make to a table, for any columns and for rows of any lengths.

## Main definitions

* `Brush.Faithful`: a brush that only puts in escape sequences.
* `Shows s p`: without escape sequences, `s` has the lines of `p` up to blanks at their ends.

## Main statements

* `drawRuled_shows`: a faithful brush draws the table that is drawn without colours.
-/

namespace LoopGauge

open Style Text

namespace Report

variable {s t p q : String} {brush : Brush} {columns : List Column} {cells : List Cell}
  {rows : List (List Cell)} {widths : List Nat}

theorem Tame.styles (h : Tame s) : Styles s s := .of_not_mem h.escape_not_mem

/-- Without its escape sequences, a text has the lines of another, up to blanks at their ends. -/
def Shows (s p : String) : Prop := ∃ q, Styles s q ∧ AlikeLines q p

theorem Shows.alikeLines (h : Shows s p) : AlikeLines (unstyled s) p := by
  obtain ⟨q, hstyles, halike⟩ := h
  rwa [hstyles.unstyled_eq]

theorem Shows.of_styles (h : Styles s p) : Shows s p := ⟨p, h, .rfl⟩

theorem Shows.append_line (h : Shows s p) (h' : Shows t q) :
    Shows (s ++ "\n" ++ t) (p ++ "\n" ++ q) := by
  obtain ⟨first, hfirst, halike⟩ := h
  obtain ⟨second, hsecond, halike'⟩ := h'
  have hfeed : Styles "\n" "\n" := Styles.of_not_mem (by decide)
  exact ⟨_, (hfirst.append hfeed).append hsecond, halike.append_line halike'⟩

theorem shows_join_lines {ss ps : List String} (h : List.Forall₂ Shows ss ps) :
    Shows (join "\n" ss) (join "\n" ps) := by
  induction h with
  | nil => exact .of_styles (.of_not_mem (by decide))
  | @cons s p ss ps hline hlines ih =>
    cases hlines with
    | nil => simpa [join] using hline
    | cons hnext hlines =>
      rw [join, join, String.intercalate_cons_cons, String.intercalate_cons_cons]
      exact hline.append_line ih

/-- Blanks at the end of a styled line are gone where the line itself has them. -/
theorem shows_trimmedEnd (h : Styles s p) (hp : Tame p) :
    Shows (trimmedEnd s) (trimmedEnd p) := by
  -- What stays of the styled line shows `qs`; the plain line may lose more, but only blanks.
  obtain ⟨qs, gap, heq, hgap, hqs⟩ := h.trimEnd
  have hfeed : '\n' ∉ qs ++ gap := heq ▸ hp.feed_not_mem
  rw [List.mem_append, not_or] at hfeed
  have htrim : trimEnd p.toList = trimEnd qs := by rw [heq, trimEnd_append_of_isBlank hgap]
  have hsub : '\n' ∉ trimEnd qs := fun hmem => hfeed.1 (mem_of_mem_trimEnd hmem)
  refine ⟨String.ofList qs, ?_, alikeLines_of_trimEnd_eq ?_ ?_ ?_⟩
  · simpa [Styles, trimmedEnd] using hqs
  · simpa using hfeed.1
  · simpa [trimmedEnd, htrim] using hsub
  · simp [trimmedEnd, htrim, trimEnd_trimEnd]

namespace Brush

/-- A brush that puts in escape sequences and nothing else. -/
structure Faithful (brush : Brush) : Prop where
  tone (t : Tone) {s : String} (hs : '\x1b' ∉ s.toList) : Styles (brush.tone t s) s
  bold {s : String} (hs : '\x1b' ∉ s.toList) : Styles (brush.bold s) s

/-- The brush without colours. -/
def dry : Brush := ⟨fun _ s => s, fun s => s⟩

end Brush

/-- A cell with its column and width, as a brush draws it. -/
def drawnCell (brush : Brush) (slot : Cell × Column × Nat) : String :=
  let padded := align slot.2.1.alignment slot.2.2 slot.1.text
  match slot.1.tone with
  | some t => brush.tone t padded
  | none => padded

/-- A row between the rules, as a brush draws it. -/
def drawnRow (brush : Brush) (columns : List Column) (widths : List Nat) (cells : List Cell) :
    String :=
  trimmedEnd (join "  " ((cells.zip (columns.zip widths)).map (drawnCell brush)))

theorem drawnCell_dry (slot : Cell × Column × Nat) :
    drawnCell .dry slot = align slot.2.1.alignment slot.2.2 slot.1.text := by
  rw [drawnCell]
  split <;> rfl

theorem drawnCell_styles (hbrush : brush.Faithful) {slot : Cell × Column × Nat}
    (h : Tame slot.1.text) : Styles (drawnCell brush slot) (drawnCell .dry slot) := by
  have hpadded := (tame_align slot.2.1.alignment slot.2.2 h).escape_not_mem
  rw [drawnCell_dry, drawnCell]
  split
  · exact hbrush.tone _ hpadded
  · exact .of_not_mem hpadded

/-- The cells of a row, before it loses the blanks at its end. -/
theorem join_drawnCell_styles (columns : List Column) (widths : List Nat)
    (hbrush : brush.Faithful) (h : ∀ cell ∈ cells, Tame cell.text) :
    Styles (join "  " ((cells.zip (columns.zip widths)).map (drawnCell brush)))
      (join "  " ((cells.zip (columns.zip widths)).map (drawnCell .dry))) := by
  refine Styles.join (by decide) ?_
  rw [List.forall₂_map_left_iff, List.forall₂_map_right_iff, List.forall₂_same]
  exact fun slot hslot => drawnCell_styles hbrush (h _ (List.of_mem_zip hslot).1)

theorem tame_join_drawnCell (columns : List Column) (widths : List Nat)
    (h : ∀ cell ∈ cells, Tame cell.text) :
    Tame (join "  " ((cells.zip (columns.zip widths)).map (drawnCell .dry))) := by
  refine tame_join (by decide) fun slot hslot => ?_
  rw [drawnCell_dry]
  exact tame_align _ _ (h _ (List.of_mem_zip hslot).1)

theorem drawnRow_shows (hbrush : brush.Faithful) (h : ∀ cell ∈ cells, Tame cell.text) :
    Shows (drawnRow brush columns widths cells) (drawnRow .dry columns widths cells) :=
  shows_trimmedEnd (join_drawnCell_styles columns widths hbrush h)
    (tame_join_drawnCell columns widths h)

-- The blanks that fill up the last cell stay only inside the colour.
example :
    drawnRow (Formatter.brush .ansi {} {}) [⟨"Test", .left, 6⟩] [6]
      [⟨"ok", some (.role .success)⟩] = "\x1b[32mok    \x1b[0m" ∧
    drawnRow .dry [⟨"Test", .left, 6⟩] [6] [⟨"ok", some (.role .success)⟩] = "ok" := by
  decide

/-- A faithful brush draws the table that is drawn without colours. -/
theorem drawRuled_shows (hbrush : brush.Faithful) (hcolumns : ∀ c ∈ columns, Tame c.header)
    (hrows : ∀ cells ∈ rows, ∀ cell ∈ cells, Tame cell.text) :
    Shows (drawRuled brush columns rows) (drawRuled .dry columns rows) := by
  -- Widths are counted on texts without colours, so they are the same for all brushes.
  let widths := columnWidths columns.length columns (rows.map (·.map Cell.text))
  have hheader : Tame (join "  " ((columns.zip widths).map fun slot =>
      align slot.1.alignment slot.2 slot.1.header)) :=
    tame_join (by decide) fun slot hslot =>
      tame_align _ _ (hcolumns _ (List.of_mem_zip hslot).1)
  have hrule : Tame (repeated (Number.total widths + 2 * widths.length) '─') :=
    tame_repeated _ (by decide)
  have hruled := Shows.of_styles (hbrush.tone (.role .border) hrule.escape_not_mem)
  have htable : List.Forall₂ Shows (rows.map (drawnRow brush columns widths))
      (rows.map (drawnRow .dry columns widths)) := by
    rw [List.forall₂_map_left_iff, List.forall₂_map_right_iff, List.forall₂_same]
    exact fun cells hcells => drawnRow_shows hbrush (hrows cells hcells)
  exact shows_join_lines (.cons (.of_styles (hbrush.bold (tame_trimmedEnd hheader).escape_not_mem))
    (.cons hruled (List.rel_append htable (.cons hruled .nil))))

end Report

end LoopGauge
