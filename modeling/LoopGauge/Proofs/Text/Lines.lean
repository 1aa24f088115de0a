import LoopGauge.Text.Pieces
import Mathlib.Data.List.Infix

/-!
# Pieces and lines

A text is its pieces with the separator between them, and its lines hold nothing that the text
does not hold.

## Main statements

* `piecesBy_eq_splitOnP`: the pieces are those of the standard library.
* `intercalate_piecesBy`: the pieces of a text make up the text.
* `pieces_join`: the pieces of joined texts are those texts.
* `mem_of_mem_linesBy`: what a line holds, the text holds.
* `mem_linesBy_of_mem_piecesBy`: every piece is a line, perhaps without its end.
* `linesBy_append_cons`: what ends with a line end adds its pieces to the lines.
-/

namespace LoopGauge.Text

variable {α : Type} {isSeparator isFeed isReturn : α → Bool} {x : α} {p q xs : List α}

theorem piecesBy_eq_splitOnP (isSeparator : α → Bool) (xs : List α) :
    piecesBy isSeparator xs = xs.splitOnP isSeparator := by
  induction xs with
  | nil => rw [piecesBy, List.splitOnP_nil]
  | cons x xs ih =>
    rw [List.splitOnP_cons_eq_if_modifyHead, piecesBy, ih]
    cases hxs : xs.splitOnP isSeparator with
    | nil => exact absurd hxs (List.splitOnP_ne_nil isSeparator xs)
    | cons p ps => rfl

theorem piecesBy_ne_nil (isSeparator : α → Bool) (xs : List α) : piecesBy isSeparator xs ≠ [] := by
  rw [piecesBy_eq_splitOnP]
  exact List.splitOnP_ne_nil isSeparator xs

theorem piecesBy_cons_of_not (isSeparator : α → Bool) (hx : ¬isSeparator x) {ps : List (List α)}
    (h : piecesBy isSeparator xs = p :: ps) :
    piecesBy isSeparator (x :: xs) = (x :: p) :: ps := by
  rw [piecesBy, if_neg hx, h]

theorem mem_of_mem_piecesBy (hp : p ∈ piecesBy isSeparator xs) (hx : x ∈ p) : x ∈ xs := by
  induction xs generalizing p with
  | nil =>
    obtain rfl := List.mem_singleton.1 hp
    exact hx
  | cons y xs ih =>
    by_cases hy : isSeparator y
    · rw [piecesBy, if_pos hy] at hp
      obtain rfl | hp := List.mem_cons.1 hp
      · cases hx
      · exact List.mem_cons_of_mem y (ih hp hx)
    · obtain ⟨q, qs, hqs⟩ := List.exists_cons_of_ne_nil (piecesBy_ne_nil isSeparator xs)
      rw [piecesBy_cons_of_not isSeparator hy hqs] at hp
      rw [hqs] at ih
      obtain rfl | hp := List.mem_cons.1 hp
      · obtain rfl | hx := List.mem_cons.1 hx
        · exact List.mem_cons_self
        · exact List.mem_cons_of_mem y (ih List.mem_cons_self hx)
      · exact List.mem_cons_of_mem y (ih (List.mem_cons_of_mem q hp) hx)

/-- The pieces of a text with the separator between them make up the text. -/
theorem intercalate_piecesBy [BEq α] [LawfulBEq α] (sep : α) (xs : List α) :
    [sep].intercalate (piecesBy (· == sep) xs) = xs := by
  rw [piecesBy_eq_splitOnP, ← List.splitOn_eq_splitOnP, List.intercalate_splitOn]

theorem piecesBy_append_cons (hx : isSeparator x) (xs ys : List α) :
    piecesBy isSeparator (xs ++ x :: ys) = piecesBy isSeparator xs ++ piecesBy isSeparator ys := by
  simp only [piecesBy_eq_splitOnP, List.splitOnP_append_cons xs ys hx]

theorem pieces_append_cons (sep : Char) (xs ys : List Char) :
    pieces sep (xs ++ sep :: ys) = pieces sep xs ++ pieces sep ys := by
  simp only [pieces, piecesBy_append_cons, beq_self_eq_true]

theorem piecesBy_of_forall_not (h : ∀ x ∈ xs, ¬isSeparator x) :
    piecesBy isSeparator xs = [xs] := by
  rw [piecesBy_eq_splitOnP, List.splitOnP_eq_singleton fun x hx => by simpa using h x hx]

/-- Texts with a separator between them are its pieces. -/
theorem pieces_join {sep : Char} {texts : List String} (h : ∀ t ∈ texts, sep ∉ t.toList)
    (hne : texts ≠ []) :
    pieces sep (join (String.singleton sep) texts).toList = texts.map String.toList := by
  rw [pieces, piecesBy_eq_splitOnP, ← List.splitOn_eq_splitOnP, join, String.toList_intercalate,
    String.toList_singleton]
  refine List.splitOn_intercalate sep ?_ (by simpa using hne)
  simpa only [List.forall_mem_map] using h

/-- Of texts with a separator between them, one that does not hold the separator is a piece. -/
theorem mem_pieces_join {sep : Char} {text : String} {texts : List String} (hmem : text ∈ texts)
    (hsep : sep ∉ text.toList) :
    text.toList ∈ pieces sep (join (String.singleton sep) texts).toList := by
  have hself : pieces sep text.toList = [text.toList] :=
    piecesBy_of_forall_not fun c hc heq => hsep (eq_of_beq heq ▸ hc)
  induction texts with
  | nil => cases hmem
  | cons first rest ih =>
    cases rest with
    | nil =>
      obtain rfl := List.mem_singleton.1 hmem
      rw [join, String.intercalate_singleton, hself]
      exact List.mem_cons_self
    | cons second rest =>
      rw [join, String.intercalate_cons_cons, String.toList_append, String.toList_append,
        String.toList_singleton, List.append_assoc, List.singleton_append, pieces_append_cons]
      obtain rfl | hmem := List.mem_cons.1 hmem
      · exact List.mem_append_left _ (hself ▸ List.mem_cons_self)
      · exact List.mem_append_right _ (ih hmem)

theorem dropLastIf_eq (isEnd : α → Bool) (xs : List α) :
    dropLastIf isEnd xs = xs ∨ ∃ x, isEnd x ∧ xs = dropLastIf isEnd xs ++ [x] := by
  rw [dropLastIf]
  split
  next x hlast =>
    split
    next hx => exact .inr ⟨x, hx, (List.dropLast_append_getLast? x hlast).symm⟩
    next => exact .inl rfl
  next => exact .inl rfl

/-- A line is a piece, perhaps without its end. -/
theorem exists_piece_of_mem_linesBy (h : q ∈ linesBy isFeed isReturn xs) :
    ∃ p ∈ piecesBy isFeed xs, q = p ∨ q = dropLastIf isReturn p := by
  have hended : q ∈ (piecesBy isFeed xs).dropLast.map (dropLastIf isReturn) →
      ∃ p ∈ piecesBy isFeed xs, q = p ∨ q = dropLastIf isReturn p := by
    intro hq
    obtain ⟨p, hp, rfl⟩ := List.mem_map.1 hq
    exact ⟨p, List.mem_of_mem_dropLast hp, .inr rfl⟩
  rw [linesBy] at h
  split at h
  · exact hended h
  next rest hne hlast =>
    obtain hq | hq := List.mem_append.1 h
    · exact hended hq
    · exact ⟨rest, List.mem_of_getLast? hlast, .inl (List.mem_singleton.1 hq)⟩
  · exact hended h

theorem mem_of_mem_linesBy (hq : q ∈ linesBy isFeed isReturn xs) (hx : x ∈ q) : x ∈ xs := by
  obtain ⟨p, hp, rfl | rfl⟩ := exists_piece_of_mem_linesBy hq
  · exact mem_of_mem_piecesBy hp hx
  · refine mem_of_mem_piecesBy hp ?_
    obtain heq | ⟨y, -, heq⟩ := dropLastIf_eq isReturn p
    · exact heq ▸ hx
    · rw [heq]
      exact List.mem_append_left [y] hx

/-- Every piece that is not empty is a line, perhaps without its end. -/
theorem mem_linesBy_of_mem_piecesBy (isReturn : α → Bool) (hp : p ∈ piecesBy isFeed xs)
    (hne : p ≠ []) :
    p ∈ linesBy isFeed isReturn xs ∨ dropLastIf isReturn p ∈ linesBy isFeed isReturn xs := by
  obtain ⟨rest, hlast⟩ : ∃ rest, (piecesBy isFeed xs).getLast? = some rest :=
    ⟨_, List.getLast?_eq_some_getLast (piecesBy_ne_nil isFeed xs)⟩
  have hsplit : p ∈ (piecesBy isFeed xs).dropLast ∨ p = rest := by
    rw [← List.dropLast_append_getLast? rest hlast] at hp
    simpa using hp
  rw [linesBy, hlast]
  cases rest with
  | nil =>
    obtain hp | rfl := hsplit
    · exact .inr (List.mem_map_of_mem hp)
    · exact absurd rfl hne
  | cons y ys =>
    obtain hp | rfl := hsplit
    · exact .inr (List.mem_append_left _ (List.mem_map_of_mem hp))
    · exact .inl (List.mem_append_right _ (List.mem_singleton.2 rfl))

theorem length_piecesBy (isSeparator : α → Bool) (xs : List α) :
    (piecesBy isSeparator xs).length = xs.countP isSeparator + 1 := by
  induction xs with
  | nil => rfl
  | cons x xs ih =>
    by_cases hx : isSeparator x
    · rw [piecesBy, if_pos hx, List.length_cons, ih, List.countP_cons_of_pos hx]
    · obtain ⟨p, ps, hps⟩ := List.exists_cons_of_ne_nil (piecesBy_ne_nil isSeparator xs)
      rw [piecesBy_cons_of_not isSeparator hx hps, List.countP_cons_of_neg hx, ← ih, hps]
      rfl

/-- What ends with a line end adds its pieces to the lines, each perhaps without its end. -/
theorem linesBy_append_cons (isReturn : α → Bool) (hx : isFeed x) (xs ys : List α) :
    linesBy isFeed isReturn (xs ++ x :: ys) =
      (piecesBy isFeed xs).map (dropLastIf isReturn) ++ linesBy isFeed isReturn ys := by
  have hne := piecesBy_ne_nil isFeed ys
  rw [linesBy, linesBy, piecesBy_append_cons hx, List.getLast?_append_of_ne_nil _ hne,
    List.dropLast_append_of_ne_nil hne, List.map_append]
  split <;> simp only [List.append_assoc]

end LoopGauge.Text
