import LoopGauge.Proofs.Text.Lines
import LoopGauge.Text.Blank
import Mathlib.Data.List.DropRight

/-!
# Blanks around a text and around its pieces

Blanks around a text are dropped in any order and from either end. If the pieces of a text are
freed of blanks anyway, it does not matter whether the whole text was.

## Main statements

* `trimStart_trimEnd`: the ends of a text can be freed of blanks in either order.
* `map_trim_pieces_trim`: blanks around a text are blanks around its pieces.
-/

namespace LoopGauge.Text

variable {c sep : Char} {cs : List Char}

theorem trimEnd_concat_of_isBlank (cs : List Char) (hc : isBlank c) :
    trimEnd (cs ++ [c]) = trimEnd cs :=
  List.rdropWhile_concat_pos isBlank cs c hc

theorem trimEnd_concat_of_not (cs : List Char) (hc : ¬isBlank c) :
    trimEnd (cs ++ [c]) = cs ++ [c] :=
  List.rdropWhile_concat_neg isBlank cs c hc

/-- The first character goes only if it is a blank and nothing stays behind it. -/
theorem trimEnd_cons (c : Char) (cs : List Char) :
    trimEnd (c :: cs) = if isBlank c ∧ trimEnd cs = [] then [] else c :: trimEnd cs := by
  induction cs using List.reverseRecOn with
  | nil =>
    by_cases hc : isBlank c
    · rw [if_pos ⟨hc, rfl⟩]
      exact trimEnd_concat_of_isBlank [] hc
    · rw [if_neg fun h => hc h.1]
      exact trimEnd_concat_of_not [] hc
  | append_singleton cs d ih =>
    rw [← List.cons_append]
    by_cases hd : isBlank d
    · rw [trimEnd_concat_of_isBlank _ hd, trimEnd_concat_of_isBlank _ hd, ih]
    · rw [trimEnd_concat_of_not _ hd, trimEnd_concat_of_not _ hd, if_neg (by simp),
        List.cons_append]

/-- Nothing goes up to the last character that is not a blank. -/
theorem trimEnd_append_cons_of_not (cs : List Char) (hc : ¬isBlank c) (ds : List Char) :
    trimEnd (cs ++ c :: ds) = cs ++ c :: trimEnd ds := by
  induction cs with
  | nil => rw [List.nil_append, trimEnd_cons, if_neg fun h => hc h.1, List.nil_append]
  | cons e cs ih =>
    have hne : trimEnd (cs ++ c :: ds) ≠ [] := by simp [ih]
    rw [List.cons_append, trimEnd_cons, if_neg fun h => hne h.2, ih, List.cons_append]

theorem trimStart_cons_of_isBlank (cs : List Char) (hc : isBlank c) :
    trimStart (c :: cs) = trimStart cs :=
  List.dropWhile_cons_of_pos hc

theorem trimStart_cons_of_not (cs : List Char) (hc : ¬isBlank c) :
    trimStart (c :: cs) = c :: cs :=
  List.dropWhile_cons_of_neg hc

theorem trim_cons_of_isBlank (cs : List Char) (hc : isBlank c) : trim (c :: cs) = trim cs := by
  rw [trim, trimStart_cons_of_isBlank cs hc, trim]

theorem trim_cons_of_not (cs : List Char) (hc : ¬isBlank c) :
    trim (c :: cs) = c :: trimEnd cs := by
  rw [trim, trimStart_cons_of_not cs hc, trimEnd_cons, if_neg fun h => hc h.1]

/-- The ends of a text can be freed of blanks in either order. -/
theorem trimStart_trimEnd (cs : List Char) : trimStart (trimEnd cs) = trim cs := by
  induction cs with
  | nil => rfl
  | cons c cs ih =>
    rw [trimEnd_cons]
    by_cases hc : isBlank c
    · rw [trim_cons_of_isBlank cs hc, ← ih]
      by_cases hcs : trimEnd cs = []
      · rw [if_pos ⟨hc, hcs⟩, hcs]
      · rw [if_neg fun h => hcs h.2, trimStart_cons_of_isBlank _ hc]
    · rw [if_neg fun h => hc h.1, trimStart_cons_of_not _ hc, trim_cons_of_not cs hc]

theorem trim_concat_of_isBlank (cs : List Char) (hc : isBlank c) :
    trim (cs ++ [c]) = trim cs := by
  rw [← trimStart_trimEnd, trimEnd_concat_of_isBlank cs hc, trimStart_trimEnd]

/-- What blanks around a text do not change is the same without them. -/
theorem apply_trim {β : Type} (f : List Char → β)
    (before : ∀ c cs, isBlank c → f (c :: cs) = f cs)
    (after : ∀ c cs, isBlank c → f (cs ++ [c]) = f cs) (cs : List Char) : f (trim cs) = f cs := by
  have hstart : ∀ cs, f (trimStart cs) = f cs := by
    intro cs
    induction cs with
    | nil => rfl
    | cons c cs ih =>
      by_cases hc : isBlank c
      · rw [trimStart_cons_of_isBlank cs hc, ih, before c cs hc]
      · rw [trimStart_cons_of_not cs hc]
  have hend : ∀ cs, f (trimEnd cs) = f cs := by
    intro cs
    induction cs using List.reverseRecOn with
    | nil => rfl
    | append_singleton cs c ih =>
      by_cases hc : isBlank c
      · rw [trimEnd_concat_of_isBlank cs hc, ih, after c cs hc]
      · rw [trimEnd_concat_of_not cs hc]
  rw [trim, hend, hstart]

theorem trim_trimStart (cs : List Char) : trim (trimStart cs) = trim cs := by
  rw [trim, trimStart, trimStart, List.dropWhile_idempotent]
  rfl

theorem trim_append_of_isBlank {gap : List Char} (hgap : ∀ c ∈ gap, isBlank c) (cs : List Char) :
    trim (cs ++ gap) = trim cs := by
  induction gap generalizing cs with
  | nil => rw [List.append_nil]
  | cons c gap ih =>
    rw [List.append_cons, ih fun d hd => hgap d (List.mem_cons_of_mem c hd),
      trim_concat_of_isBlank cs (hgap c List.mem_cons_self)]

theorem trim_gap_append {gap : List Char} (hgap : ∀ c ∈ gap, isBlank c) (cs : List Char) :
    trim (gap ++ cs) = trim cs := by
  induction gap with
  | nil => rw [List.nil_append]
  | cons c gap ih =>
    obtain ⟨hc, hgap⟩ := List.forall_mem_cons.1 hgap
    rw [List.cons_append, trim_cons_of_isBlank _ hc, ih hgap]

/-- Nothing is dropped from a text that neither starts nor ends with a blank. -/
theorem trim_eq_self (hfirst : ∀ c, cs.head? = some c → ¬isBlank c)
    (hlast : ∀ c, cs.getLast? = some c → ¬isBlank c) : trim cs = cs := by
  cases cs with
  | nil => rfl
  | cons c cs =>
    obtain ⟨d, hd⟩ := List.getLast?_isSome.2 (List.cons_ne_nil c cs) |> Option.isSome_iff_exists.1
    have hcs := List.dropLast_append_getLast? d hd
    rw [trim, trimStart_cons_of_not cs (hfirst c rfl), ← hcs,
      trimEnd_concat_of_not _ (hlast d hd)]

theorem piecesBy_concat_of_not {α : Type} (isSeparator : α → Bool) {x : α} (hx : ¬isSeparator x)
    (xs : List α) : ∃ start last, piecesBy isSeparator xs = start ++ [last] ∧
      piecesBy isSeparator (xs ++ [x]) = start ++ [last ++ [x]] := by
  induction xs with
  | nil => exact ⟨[], [], rfl, piecesBy_cons_of_not isSeparator hx rfl⟩
  | cons y xs ih =>
    obtain ⟨start, last, hxs, hconcat⟩ := ih
    by_cases hy : isSeparator y
    · refine ⟨[] :: start, last, ?_, ?_⟩
      · rw [piecesBy, if_pos hy, hxs, List.cons_append]
      · rw [List.cons_append, piecesBy, if_pos hy, hconcat, List.cons_append]
    · cases start with
      | nil =>
        exact ⟨[], y :: last, piecesBy_cons_of_not isSeparator hy hxs,
          piecesBy_cons_of_not isSeparator hy hconcat⟩
      | cons p start =>
        exact ⟨(y :: p) :: start, last, piecesBy_cons_of_not isSeparator hy hxs,
          piecesBy_cons_of_not isSeparator hy hconcat⟩

/-- Blanks around a text are blanks around its pieces. -/
theorem map_trim_pieces_trim (hsep : ¬isBlank sep) (cs : List Char) :
    (pieces sep (trim cs)).map trim = (pieces sep cs).map trim := by
  have hne : ∀ c, isBlank c → ¬(c == sep) := fun c hc heq => hsep (eq_of_beq heq ▸ hc)
  refine apply_trim (fun cs => (pieces sep cs).map trim) ?_ ?_ cs
  · intro c cs hc
    obtain ⟨p, ps, hps⟩ := List.exists_cons_of_ne_nil (piecesBy_ne_nil (· == sep) cs)
    rw [pieces, pieces, piecesBy_cons_of_not (· == sep) (hne c hc) hps, hps, List.map_cons,
      List.map_cons, trim_cons_of_isBlank p hc]
  · intro c cs hc
    obtain ⟨start, last, hcs, hconcat⟩ := piecesBy_concat_of_not (· == sep) (hne c hc) cs
    rw [pieces, pieces, hcs, hconcat, List.map_append, List.map_append, List.map_singleton,
      List.map_singleton, trim_concat_of_isBlank last hc]

end LoopGauge.Text
