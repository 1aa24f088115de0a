import LoopGauge.Proofs.Text.Trim
import LoopGauge.Report.Table
import Mathlib.Algebra.GroupWithZero.Nat
import Mathlib.Data.List.Forall2

/-!
# Bordered tables are aligned

A bordered line is a row of segments with a separator in front of each and one at the end. Where the
separators stand depends on the lengths of the segments only. The segments of a border are as wide
as the columns and two more, and cells are filled up to the same widths, so every separator of a row
stands below a `+` of the border, whatever the texts and however many cells the row has.

## Main definitions

* `fence x segments`: segments with `x` in front of each and at the end.
* `PlusAt border k p`: where the border has its `+` number `k`.
* `Aligned`: a line with separators below those of the border, and cells in between.

## Main statements

* `TableFormat.draw_aligned`: the lines of a table with borders and a header.
-/

namespace LoopGauge.Report

open Text

section Fence

variable {α : Type} {x y : α} {segments : List (List α)} {k : Nat}

/-- Segments with an element in front of each and at the end. -/
def fence (x : α) (segments : List (List α)) : List α := segments.flatMap (x :: ·) ++ [x]

/-- Where the element number `k` of a fence stands, given the lengths of the segments. -/
def post (lengths : List Nat) (k : Nat) : Nat := ((lengths.take k).map (· + 1)).sum

theorem fence_cons (s : List α) : fence x (s :: segments) = x :: (s ++ fence x segments) := by
  simp [fence]

theorem mem_fence : y ∈ fence x segments ↔ y = x ∨ ∃ s ∈ segments, y ∈ s := by
  induction segments with
  | nil => simp [fence]
  | cons s segments ih =>
    rw [fence_cons, List.mem_cons, List.mem_append, ih]
    simp only [List.mem_cons, exists_eq_or_imp]
    tauto

theorem cons_flatMap_eq_fence : x :: segments.flatMap (· ++ [x]) = fence x segments := by
  induction segments with
  | nil => rfl
  | cons s segments ih =>
    rw [List.flatMap_cons, List.append_assoc, List.singleton_append, ih, fence_cons]

theorem fence_eq_append (k : Nat) :
    fence x segments = (segments.take k).flatMap (x :: ·) ++ fence x (segments.drop k) := by
  rw [fence, fence, ← List.append_assoc, ← List.flatMap_append, List.take_append_drop]

theorem length_flatMap_take (x : α) (segments : List (List α)) (k : Nat) :
    ((segments.take k).flatMap (x :: ·)).length = post (segments.map List.length) k := by
  rw [List.length_flatMap, post, ← List.map_take, List.map_map]
  rfl

theorem getElem?_fence : (fence x segments)[post (segments.map List.length) k]? = some x := by
  rw [fence_eq_append k, ← length_flatMap_take x, List.getElem?_append_right (Nat.le_refl _),
    Nat.sub_self]
  cases segments.drop k <;> rfl

theorem length_fence :
    (fence x segments).length = post (segments.map List.length) segments.length + 1 := by
  rw [fence_eq_append segments.length, List.length_append, length_flatMap_take, List.drop_length]
  rfl

theorem post_succ {lengths : List Nat} (h : k < lengths.length) :
    post lengths (k + 1) = post lengths k + (lengths[k] + 1) := by
  rw [post, List.take_add_one, List.getElem?_eq_getElem h, List.map_append, List.sum_append]
  rfl

/-- Between two neighbours stands a segment. -/
theorem segment_of_fence (h : k < segments.length) :
    ((fence x segments).take (post (segments.map List.length) (k + 1))).drop
      (post (segments.map List.length) k + 1) = segments[k] := by
  have hlength := length_flatMap_take x segments k
  have hcut : fence x segments = (segments.take k).flatMap (x :: ·) ++
      (x :: (segments[k] ++ fence x (segments.drop (k + 1)))) := by
    rw [fence_eq_append k, List.drop_eq_getElem_cons h, fence_cons]
  rw [hcut, post_succ (by simpa using h), List.getElem_map, ← hlength, List.take_length_add_append,
    List.take_succ_cons, List.take_left, List.drop_length_add_append]
  rfl

theorem count_take_fence [BEq α] [LawfulBEq α] (hk : k ≤ segments.length)
    (hx : ∀ s ∈ segments, x ∉ s) :
    ((fence x segments).take (post (segments.map List.length) k)).count x = k := by
  have hsegment : ∀ s ∈ segments.take k, (List.count x ∘ (x :: ·)) s = 1 := by
    intro s hs
    have hnot := hx s (List.mem_of_mem_take hs)
    rw [Function.comp_apply, List.count_cons_self, List.count_eq_zero_of_not_mem hnot]
  rw [fence_eq_append k, ← length_flatMap_take x, List.take_left, List.count_flatMap,
    List.map_congr_left hsegment, List.map_const', List.sum_replicate_nat, List.length_take,
    Nat.min_eq_left hk, Nat.mul_one]

end Fence

/-- The border has its `+` number `k` at position `p`, counted from zero. -/
def PlusAt (border : List Char) (k p : Nat) : Prop :=
  border[p]? = some '+' ∧ (border.take p).count '+' = k

/-- A text filled up with spaces on the side that the alignment leaves. -/
def filled (a : Alignment) (n : Nat) (cell : String) : List Char :=
  match a with
  | .left => cell.toList ++ List.replicate n ' '
  | .right => List.replicate n ' ' ++ cell.toList

/-- A line whose separators stand below those of the border, with the cells filled up between
them. -/
structure Aligned (border : List Char) (alignment : Nat → Alignment) (cells : List String)
    (drawn : List Char) : Prop where
  separators : ∀ k ≤ cells.length, ∃ p, PlusAt border k p ∧ drawn[p]? = some '|'
  texts : ∀ (k : Nat) (h : k < cells.length), ∃ p q n, PlusAt border k p ∧ PlusAt border (k + 1) q ∧
    (drawn.take q).drop (p + 1) = ' ' :: filled (alignment k) n cells[k] ++ [' ']
  ends : ∃ p, PlusAt border cells.length p ∧ drawn.length = p + 1

section Widths

variable {columns : List Column} {rows : List (List String)} {row : List String} {n i : Nat}

theorem le_foldl_max {xs : List Nat} {base x : Nat} (h : x ∈ base :: xs) :
    x ≤ xs.foldl max base :=
  (List.max?_eq_some_iff.1 List.max?_cons').2 x h

@[simp]
theorem length_columnWidths : (columnWidths n columns rows).length = n := by simp [columnWidths]

theorem width_cell_le (hrow : row ∈ rows) (hi : i < row.length)
    (h : i < (columnWidths n columns rows).length) :
    width row[i] ≤ (columnWidths n columns rows)[i] := by
  have hmem : row[i] ∈ rows.filterMap (·[i]?) :=
    List.mem_filterMap.2 ⟨row, hrow, List.getElem?_eq_getElem hi⟩
  simp only [columnWidths, List.getElem_map, List.getElem_range, columnWidth]
  exact le_foldl_max (List.mem_cons_of_mem _ (List.mem_map_of_mem hmem))

theorem width_header_le (hi : i < columns.length)
    (h : i < (columnWidths n columns rows).length) :
    width columns[i].header ≤ (columnWidths n columns rows)[i] := by
  simp only [columnWidths, List.getElem_map, List.getElem_range, columnWidth,
    List.getElem?_eq_getElem hi, Option.map_some, Option.getD_some]
  exact Nat.le_trans (Nat.le_max_right ..) (le_foldl_max List.mem_cons_self)

end Widths

namespace TableFormat

variable {f : TableFormat} {rows : List (List String)} {row cells : List String}
  {widths : List Nat} {k : Nat}

/-- The alignment of a column; cells beyond the columns are filled up on the right. -/
def alignmentAt (f : TableFormat) (k : Nat) : Alignment :=
  (f.columns[k]?.map Column.alignment).getD .left

theorem length_row_le (h : row ∈ rows) : row.length ≤ (f.widths rows).length := by
  rw [widths, length_columnWidths]
  exact le_foldl_max (List.mem_cons_of_mem _ (List.mem_map_of_mem h))

theorem length_columns_le (f : TableFormat) (rows : List (List String)) :
    f.columns.length ≤ (f.widths rows).length := by
  rw [widths, length_columnWidths]
  exact le_foldl_max List.mem_cons_self

def rule (widths : List Nat) : List Char :=
  fence '+' (widths.map fun n => List.replicate (n + 2) '-')

theorem toList_join_map {α : Type} (g : α → String) (xs : List α) :
    (String.join (xs.map g)).toList = xs.flatMap fun x => (g x).toList := by
  induction xs with
  | nil => rfl
  | cons x xs ih =>
    rw [List.map_cons, String.join_cons, String.toList_append, ih, List.flatMap_cons]

theorem toList_border (h : widths ≠ []) : (border widths).toList = rule widths := by
  rw [border, if_neg (by simpa using h), String.toList_append, toList_join_map, rule,
    ← cons_flatMap_eq_fence, List.flatMap_map]
  simp only [String.toList_append, repeated, String.toList_ofList]
  rfl

theorem toList_align (a : Alignment) (n : Nat) (cell : String) :
    (align a n cell).toList = filled a (n - width cell) cell := by
  cases a <;> simp [align, padEnd, padStart, repeated, filled]

def segments (f : TableFormat) (widths : List Nat) (cells : List String) : List (List Char) :=
  (cells.zip ((f.alignments widths.length).zip widths)).map fun (s, a, n) =>
    ' ' :: filled a (n - width s) s ++ [' ']

theorem toList_line (hborders : f.borders) :
    (f.line widths cells).toList = fence '|' (f.segments widths cells) := by
  have hstart : "|".toList = ['|'] := by decide
  have hgap : " ".toList = [' '] := by decide
  have hend : " |".toList = [' ', '|'] := by decide
  rw [line, trimmedEnd, String.toList_ofList, if_pos hborders, String.toList_append,
    toList_join_map, hstart, List.singleton_append]
  simp only [cellText, if_pos hborders, String.toList_append, toList_align, hgap, hend]
  -- The last character is no blank, so nothing is lost at the end.
  have hkept (cs : List (List Char)) : trimEnd (fence '|' cs) = fence '|' cs :=
    trimEnd_concat_of_not _ (by decide)
  rw [← hkept, segments, ← cons_flatMap_eq_fence, List.flatMap_map]
  simp

variable (f) in
theorem length_segments (hlen : cells.length ≤ widths.length) :
    (f.segments widths cells).length = cells.length := by
  simp [segments, alignments, hlen]

theorem getElem_segments (hlen : cells.length ≤ widths.length) (hk : k < cells.length)
    (h : k < (f.segments widths cells).length) :
    (f.segments widths cells)[k] =
      ' ' :: filled (f.alignmentAt k) (widths[k] - width cells[k]) cells[k] ++ [' '] := by
  simp [segments, alignments, alignmentAt]

theorem length_filled (a : Alignment) (n : Nat) (cell : String) :
    (filled a n cell).length = width cell + n := by
  cases a <;> simp [filled, width, String.length_toList, Nat.add_comm]

/-- Cells that fit leave the separators where the border has them. -/
theorem post_segments (hlen : cells.length ≤ widths.length)
    (hfit : ∀ (k : Nat) (hk : k < cells.length), width cells[k] ≤ widths[k])
    (hk : k ≤ cells.length) :
    post ((f.segments widths cells).map List.length) k = post (widths.map (· + 2)) k := by
  have htake : ((f.segments widths cells).map List.length).take k =
      (widths.map (· + 2)).take k := by
    apply List.ext_getElem
    · simp [length_segments f hlen]
      omega
    · intro i hi hi'
      have hcell : i < cells.length := by
        simp only [List.length_take] at hi
        omega
      have hwidth := hfit i hcell
      rw [List.getElem_take, List.getElem_take, List.getElem_map, List.getElem_map,
        getElem_segments hlen hcell]
      simp only [List.length_append, List.length_cons, length_filled, List.length_nil]
      omega
  rw [post, post, htake]

theorem plusAt_rule (hk : k ≤ widths.length) :
    PlusAt (rule widths) k (post (widths.map (· + 2)) k) := by
  have hlengths : (widths.map fun n => List.replicate (n + 2) '-').map List.length =
      widths.map (· + 2) := by
    simp
  rw [← hlengths]
  refine ⟨getElem?_fence, count_take_fence (by simpa using hk) ?_⟩
  simp

/-- A line of cells that fit has its separators below those of the border. -/
theorem aligned_line (hborders : f.borders) (hlen : cells.length ≤ widths.length)
    (hfit : ∀ (k : Nat) (hk : k < cells.length), width cells[k] ≤ widths[k]) :
    Aligned (rule widths) f.alignmentAt cells (f.line widths cells).toList := by
  have hpost (k : Nat) (hk : k ≤ cells.length) := post_segments (f := f) hlen hfit hk
  rw [toList_line hborders]
  constructor
  case separators =>
    intro k hk
    refine ⟨_, plusAt_rule (Nat.le_trans hk hlen), ?_⟩
    rw [← hpost k hk]
    exact getElem?_fence
  case texts =>
    intro k hk
    refine ⟨_, _, widths[k] - width cells[k], plusAt_rule (by omega), plusAt_rule (by omega), ?_⟩
    have hsegment : k < (f.segments widths cells).length := by rwa [length_segments f hlen]
    rw [← hpost k (Nat.le_of_lt hk), ← hpost (k + 1) hk, segment_of_fence hsegment,
      getElem_segments hlen hk]
  case ends =>
    refine ⟨_, plusAt_rule hlen, ?_⟩
    rw [length_fence, length_segments f hlen, hpost _ (Nat.le_refl _)]

theorem mem_filled {a : Alignment} {n : Nat} {cell : String} {c : Char}
    (h : c ∈ filled a n cell) : c = ' ' ∨ c ∈ cell.toList := by
  cases a with
  | left =>
    obtain h | h := List.mem_append.1 h
    · exact .inr h
    · exact .inl (List.eq_of_mem_replicate h)
  | right =>
    obtain h | h := List.mem_append.1 h
    · exact .inl (List.eq_of_mem_replicate h)
    · exact .inr h

theorem feed_not_mem_line (hborders : f.borders) (h : ∀ cell ∈ cells, '\n' ∉ cell.toList) :
    '\n' ∉ (f.line widths cells).toList := by
  rw [toList_line hborders, mem_fence]
  rintro (hbar | ⟨s, hs, hfeed⟩)
  · cases hbar
  · obtain ⟨⟨cell, a, n⟩, hslot, rfl⟩ := List.mem_map.1 hs
    obtain hfeed | hfeed := List.mem_append.1 hfeed
    · obtain hspace | hfeed := List.mem_cons.1 hfeed
      · cases hspace
      · obtain hspace | hfeed := mem_filled hfeed
        · cases hspace
        · exact h cell (List.of_mem_zip hslot).1 hfeed
    · cases List.mem_singleton.1 hfeed

theorem mem_rule {c : Char} (h : c ∈ rule widths) : c = '+' ∨ c = '-' := by
  obtain rfl | ⟨s, hs, hc⟩ := mem_fence.1 h
  · exact .inl rfl
  · obtain ⟨n, -, rfl⟩ := List.mem_map.1 hs
    exact .inr (List.eq_of_mem_replicate hc)

theorem join_concat {init : List String} (hne : init ≠ []) (last : String) :
    (join "\n" (init ++ [last])).toList = (join "\n" init).toList ++ '\n' :: last.toList := by
  have hfeed : "\n".toList = ['\n'] := by decide
  rw [join, String.intercalate_append_of_ne_nil hne (by simp), String.intercalate_singleton,
    String.toList_append, String.toList_append, hfeed, List.append_assoc, List.singleton_append]
  rfl

theorem widths_eq_nil_iff : f.widths rows = [] ↔ f.columns = [] ∧ ∀ row ∈ rows, row = [] := by
  constructor
  · intro h
    have hcolumns := length_columns_le f rows
    rw [h] at hcolumns
    refine ⟨List.length_eq_zero_iff.1 (Nat.le_zero.1 hcolumns), fun row hrow => ?_⟩
    have hlength := length_row_le (f := f) hrow
    rw [h] at hlength
    exact List.length_eq_zero_iff.1 (Nat.le_zero.1 hlength)
  · rintro ⟨hcolumns, hempty⟩
    have hmem : f.columnCount rows ∈ f.columns.length :: rows.map List.length :=
      (List.max?_eq_some_iff.1 List.max?_cons').1
    have hzero : f.columnCount rows = 0 := by
      obtain h | h := List.mem_cons.1 hmem
      · rw [h, hcolumns, List.length_nil]
      · obtain ⟨row, hrow, hlength⟩ := List.mem_map.1 h
        rw [← hlength, hempty row hrow, List.length_nil]
    rw [widths, hzero]
    rfl

/-- The lines above the last border. -/
def upperLines (f : TableFormat) (rows : List (List String)) : List String :=
  f.headerLines (f.widths rows) ++ rows.map (f.line (f.widths rows))

theorem upperLines_ne_nil (hne : rows ≠ []) : f.upperLines rows ≠ [] := by
  simp [upperLines, hne]

theorem toList_draw (hborders : f.borders) (hne : rows ≠ []) :
    (f.draw rows).toList = trimEnd ((join "\n" (f.upperLines rows)).toList ++
      '\n' :: (border (f.widths rows)).toList) := by
  rw [draw, if_neg (by simpa using hne), trimmedEnd, String.toList_ofList, lines,
    if_pos hborders, ← join_concat (upperLines_ne_nil hne)]
  rfl

theorem upperLines_ends (hborders : f.borders) (hne : rows ≠ []) :
    ∃ cs, (join "\n" (f.upperLines rows)).toList = cs ++ ['|'] := by
  obtain ⟨init, last, rfl⟩ := (List.eq_nil_or_concat' rows).resolve_left hne
  have hlast : ∃ cs, (f.line (f.widths (init ++ [last])) last).toList = cs ++ ['|'] :=
    ⟨_, toList_line hborders⟩
  obtain ⟨cs, hcs⟩ := hlast
  rw [upperLines, List.map_append, List.map_singleton, ← List.append_assoc]
  generalize f.headerLines _ ++ init.map _ = start
  by_cases hstart : start = []
  · refine ⟨cs, ?_⟩
    rw [hstart, List.nil_append, join, String.intercalate_singleton, hcs]
  · refine ⟨(join "\n" start).toList ++ '\n' :: cs, ?_⟩
    rw [join_concat hstart, hcs, List.append_assoc, List.cons_append]

theorem rule_eq_concat (widths : List Nat) : ∃ cs, rule widths = cs ++ ['+'] := ⟨_, rfl⟩

theorem feed_not_mem_rule (widths : List Nat) : '\n' ∉ rule widths := by
  intro h
  obtain h | h := mem_rule h
  · cases h
  · cases h

/-- Without columns there is no border, and the line feed in front of it is lost. -/
theorem pieces_draw (hborders : f.borders) (hne : rows ≠ [])
    (hupper : ∀ line ∈ f.upperLines rows, '\n' ∉ line.toList) :
    pieces '\n' (f.draw rows).toList = (f.upperLines rows).map String.toList ++
      if f.columns = [] ∧ ∀ row ∈ rows, row = [] then [] else [rule (f.widths rows)] := by
  have hpieces : pieces '\n' (join "\n" (f.upperLines rows)).toList = _ :=
    pieces_join hupper (upperLines_ne_nil hne)
  rw [toList_draw hborders hne]
  by_cases h : f.widths rows = []
  · obtain ⟨cs, hcs⟩ := upperLines_ends hborders hne
    have hborder : (border (f.widths rows)).toList = [] := by
      rw [h]
      rfl
    rw [if_pos (widths_eq_nil_iff.1 h), List.append_nil, ← hpieces, hborder,
      trimEnd_concat_of_isBlank _ (by decide), hcs, trimEnd_concat_of_not _ (by decide)]
  · obtain ⟨cs, hcs⟩ := rule_eq_concat (f.widths rows)
    rw [if_neg (mt widths_eq_nil_iff.2 h), toList_border h, hcs, ← List.cons_append,
      ← List.append_assoc, trimEnd_concat_of_not _ (by decide), List.append_assoc, List.cons_append,
      ← hcs, pieces_append_cons, hpieces]
    have hrule : pieces '\n' (rule (f.widths rows)) = [rule (f.widths rows)] :=
      piecesBy_of_forall_not fun c hc hfeed => feed_not_mem_rule _ (eq_of_beq hfeed ▸ hc)
    rw [hrule]

/-- **The lines of a table are aligned.** A table with borders and a header, whose texts have no
line feeds, is drawn for any rows, with fewer cells than columns or with more. The separators of
every line stand below the first `+` signs of the border, one for each cell and one more; between
them stand the texts in full, filled up on the side that the column says. If there is a column, the
lines are a border, the header, a border, the rows and a border. -/
theorem draw_aligned (f : TableFormat) (rows : List (List String)) (hborders : f.borders)
    (hheader : f.header) (hheaders : ∀ c ∈ f.columns, '\n' ∉ c.header.toList) (hne : rows ≠ [])
    (hcells : ∀ row ∈ rows, ∀ cell ∈ row, '\n' ∉ cell.toList) :
    ∃ border header body,
      (f.columns ≠ [] →
        pieces '\n' (f.draw rows).toList = border :: header :: border :: body ++ [border]) ∧
      (f.columns = [] →
        pieces '\n' (f.draw rows).toList =
          body ++ if ∀ row ∈ rows, row = [] then [] else [border]) ∧
      (∀ c ∈ border, c = '+' ∨ c = '-') ∧
      (f.columns ≠ [] → Aligned border f.alignmentAt (f.columns.map Column.header) header) ∧
      List.Forall₂ (Aligned border f.alignmentAt) rows body := by
  let widths := f.widths rows
  have hheaders' : ∀ cell ∈ f.columns.map Column.header, '\n' ∉ cell.toList :=
    List.forall_mem_map.2 hheaders
  have hbody : ∀ line ∈ rows.map (f.line widths), '\n' ∉ line.toList :=
    List.forall_mem_map.2 fun row hrow => feed_not_mem_line hborders (hcells row hrow)
  refine ⟨rule widths, (f.line widths (f.columns.map Column.header)).toList,
    (rows.map (f.line widths)).map String.toList, fun hcolumns => ?_, fun hcolumns => ?_,
    fun c => mem_rule, fun hcolumns => ?_, ?_⟩
  · have hwidths : widths ≠ [] := fun h => hcolumns (widths_eq_nil_iff.1 h).1
    have hlines : f.headerLines widths =
        [TableFormat.border widths, f.line widths (f.columns.map Column.header),
          TableFormat.border widths] := by
      simp [headerLines, hborders, hheader, hcolumns]
    have hrule : '\n' ∉ (TableFormat.border widths).toList := by
      rw [toList_border hwidths]
      exact feed_not_mem_rule widths
    have hupper : f.upperLines rows = _ ++ rows.map (f.line widths) := congrArg (· ++ _) hlines
    rw [pieces_draw hborders hne, if_neg fun h => hcolumns h.1, hupper, List.map_append]
    · simp only [List.map_cons, List.map_nil, toList_border hwidths]
      rfl
    · rw [hupper, List.forall_mem_append]
      simp only [List.forall_mem_cons]
      exact ⟨⟨hrule, feed_not_mem_line hborders hheaders', hrule, nofun⟩, hbody⟩
  · have hupper : f.upperLines rows = rows.map (f.line widths) := by
      simp [upperLines, headerLines, hcolumns, widths]
    rw [pieces_draw hborders hne (hupper ▸ hbody), hupper]
    simp only [hcolumns, true_and]
    rfl
  · refine aligned_line hborders (by simpa using length_columns_le f rows) fun k hk => ?_
    rw [List.getElem_map]
    exact width_header_le (by simpa using hk) _
  · rw [List.map_map, List.forall₂_map_right_iff, List.forall₂_same]
    intro row hrow
    exact aligned_line hborders (length_row_le hrow) fun k hk => width_cell_le hrow hk _

/-- One row has a cell beyond the columns, with a bar and a plus sign in it; one has no cell. -/
theorem draw_aligned_ragged :
    let f : TableFormat := ⟨[⟨"Mean", .right, 7⟩], true, true⟩
    let rows := [["5µs", "|+"], []]
    ∃ header body,
      pieces '\n' (f.draw rows).toList = "+---------+----+".toList :: header ::
        "+---------+----+".toList :: body ++ ["+---------+----+".toList] ∧
      Aligned "+---------+----+".toList f.alignmentAt ["Mean"] header ∧
      List.Forall₂ (Aligned "+---------+----+".toList f.alignmentAt) rows body := by
  intro f rows
  obtain ⟨border, header, body, hlines, -, -, hheader, hbody⟩ :=
    draw_aligned f rows rfl rfl (by decide) (by decide) (by decide)
  have hlines := hlines (by decide)
  have hdrawn : (pieces '\n' (f.draw rows).toList).head? =
      some "+---------+----+".toList := by
    decide +kernel
  rw [hlines] at hdrawn
  obtain rfl := Option.some.inj hdrawn
  exact ⟨header, body, hlines, hheader (by decide), hbody⟩

end TableFormat

end LoopGauge.Report
