import LoopGauge.Proofs.Text.Trim

/-!
# Texts that differ at line ends

Blanks at the end of a line are not seen. Two texts are alike if they have the same lines up to
such blanks, and texts that are put together of alike lines are alike.

## Main definitions

* `AlikeLines s t`: the texts have the same lines up to blanks at their ends.

## Main statements

* `AlikeLines.append_line`: lines put in front of alike texts.
* `alikeLines_of_trimEnd_eq`: blanks at the end of a line make no difference.
* `AlikeLines.mem`: alike texts have the same characters, blanks aside.
-/

namespace LoopGauge.Text

variable {α : Type} {x : α} {xs : List α} {gap : List Char} {s t u v : String}

theorem trimEnd_append_of_isBlank (hgap : ∀ c ∈ gap, isBlank c) (cs : List Char) :
    trimEnd (cs ++ gap) = trimEnd cs := by
  induction gap using List.reverseRecOn with
  | nil => rw [List.append_nil]
  | append_singleton gap d ih =>
    obtain ⟨hgap, hd⟩ := List.forall_mem_append.1 hgap
    rw [← List.append_assoc, trimEnd_concat_of_isBlank _ (hd d List.mem_cons_self), ih hgap]

theorem mem_of_mem_trimEnd {c : Char} {cs : List Char} (h : c ∈ trimEnd cs) : c ∈ cs :=
  (List.rdropWhile_prefix isBlank cs).subset h

/-- Only blanks are lost at the end of a text. -/
theorem mem_trimEnd_of_mem {c : Char} {cs : List Char} (hc : ¬isBlank c) (h : c ∈ cs) :
    c ∈ trimEnd cs := by
  obtain ⟨before, after, rfl⟩ := List.append_of_mem h
  rw [trimEnd_append_cons_of_not before hc after]
  exact List.mem_append_right before List.mem_cons_self

theorem trimEnd_trimEnd (cs : List Char) : trimEnd (trimEnd cs) = trimEnd cs :=
  List.rdropWhile_idempotent isBlank cs

theorem exists_piece_of_mem {isSeparator : α → Bool} (h : x ∈ xs) (hx : ¬isSeparator x) :
    ∃ p ∈ piecesBy isSeparator xs, x ∈ p := by
  obtain ⟨before, after, rfl⟩ := List.append_of_mem h
  clear h
  induction before with
  | nil =>
    obtain ⟨p, ps, hps⟩ := List.exists_cons_of_ne_nil (piecesBy_ne_nil isSeparator after)
    rw [List.nil_append, piecesBy_cons_of_not isSeparator hx hps]
    exact ⟨x :: p, List.mem_cons_self, List.mem_cons_self⟩
  | cons y before ih =>
    obtain ⟨q, hq, hxq⟩ := ih
    by_cases hy : isSeparator y
    · rw [List.cons_append, piecesBy, if_pos hy]
      exact ⟨q, List.mem_cons_of_mem _ hq, hxq⟩
    · obtain ⟨p, ps, hps⟩ :=
        List.exists_cons_of_ne_nil (piecesBy_ne_nil isSeparator (before ++ x :: after))
      rw [List.cons_append, piecesBy_cons_of_not isSeparator hy hps]
      rw [hps] at hq
      obtain rfl | hq := List.mem_cons.1 hq
      · exact ⟨y :: q, List.mem_cons_self, List.mem_cons_of_mem y hxq⟩
      · exact ⟨q, List.mem_cons_of_mem _ hq, hxq⟩

/-- Two texts have the same lines, up to blanks at the ends of lines. -/
def AlikeLines (s t : String) : Prop :=
  (pieces '\n' s.toList).map trimEnd = (pieces '\n' t.toList).map trimEnd

theorem AlikeLines.rfl : AlikeLines s s := Eq.refl _

theorem AlikeLines.symm (h : AlikeLines s t) : AlikeLines t s := Eq.symm h

theorem AlikeLines.trans (h : AlikeLines s t) (h' : AlikeLines t u) : AlikeLines s u :=
  Eq.trans h h'

theorem AlikeLines.append_line (h : AlikeLines s t) (h' : AlikeLines u v) :
    AlikeLines (s ++ "\n" ++ u) (t ++ "\n" ++ v) := by
  have hcut (s u : String) :
      pieces '\n' (s ++ "\n" ++ u).toList = pieces '\n' s.toList ++ pieces '\n' u.toList := by
    have hfeed : "\n".toList = ['\n'] := by decide
    rw [String.toList_append, String.toList_append, List.append_assoc, hfeed,
      List.singleton_append]
    exact pieces_append_cons '\n' s.toList u.toList
  rw [AlikeLines, hcut, hcut, List.map_append, List.map_append, h, h']

/-- Two lines are alike if they are the same without the blanks at their ends. -/
theorem alikeLines_of_trimEnd_eq (hs : '\n' ∉ s.toList) (ht : '\n' ∉ t.toList)
    (h : trimEnd s.toList = trimEnd t.toList) : AlikeLines s t := by
  have hline {s : String} (hs : '\n' ∉ s.toList) : pieces '\n' s.toList = [s.toList] := by
    refine piecesBy_of_forall_not fun c hc hfeed => ?_
    obtain rfl := eq_of_beq hfeed
    exact hs hc
  rw [AlikeLines, hline hs, hline ht, List.map_singleton, List.map_singleton, h]

/-- Alike texts hold the same characters, blanks aside. -/
theorem AlikeLines.mem {c : Char} (h : AlikeLines s t) (hc : ¬isBlank c) (hs : c ∈ s.toList) :
    c ∈ t.toList := by
  have hfeed : ¬(c == '\n') := by
    intro hfeed
    rw [eq_of_beq hfeed] at hc
    exact hc (by decide)
  obtain ⟨p, hp, hmem⟩ : ∃ p ∈ pieces '\n' s.toList, c ∈ p := exists_piece_of_mem hs hfeed
  have hline : trimEnd p ∈ (pieces '\n' t.toList).map trimEnd := h ▸ List.mem_map_of_mem hp
  obtain ⟨q, hq, heq⟩ := List.mem_map.1 hline
  have hsub : c ∈ trimEnd q := heq ▸ mem_trimEnd_of_mem hc hmem
  exact mem_of_mem_piecesBy hq (mem_of_mem_trimEnd hsub)

end LoopGauge.Text
