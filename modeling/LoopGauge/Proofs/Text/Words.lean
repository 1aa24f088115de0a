import LoopGauge.Proofs.Report.Verdict

/-!
# Words at the start of a text

A word ends where the first character stands that it cannot hold, so a text that goes on with such
a character tells the word at its start. Numerals are such words, and so are names.

## Main statements

* `append_cons_inj`: a text tells the word at its start and what follows it.
* `decimal_append_inj`: a text tells the numeral at its start.
-/

namespace LoopGauge.Text

open Number

/-- A text tells the word at its start, what ends the word, and what follows. -/
theorem append_cons_inj {α : Type} {p : α → Prop} {x y u v : List α} {c d : α}
    (hx : ∀ a ∈ x, p a) (hy : ∀ a ∈ y, p a) (hc : ¬p c) (hd : ¬p d)
    (h : x ++ c :: u = y ++ d :: v) : x = y ∧ c = d ∧ u = v := by
  induction x generalizing y with
  | nil =>
    cases y with
    | nil => exact ⟨rfl, List.cons.inj h⟩
    | cons b y =>
      obtain ⟨rfl, -⟩ := List.cons.inj h
      exact absurd (hy _ List.mem_cons_self) hc
  | cons a x ih =>
    cases y with
    | nil =>
      obtain ⟨rfl, -⟩ := List.cons.inj h
      exact absurd (hx _ List.mem_cons_self) hd
    | cons b y =>
      obtain ⟨rfl, htail⟩ := List.cons.inj h
      obtain ⟨rfl, hrest⟩ := ih (fun a ha => hx a (List.mem_cons_of_mem _ ha))
        (fun a ha => hy a (List.mem_cons_of_mem _ ha)) htail
      exact ⟨rfl, hrest⟩

theorem decimal_injective {m n : Nat} (h : decimal m = decimal n) : m = n :=
  digits_injective (String.ofList_inj.1 h)

/-- A text tells the numeral at its start. -/
theorem decimal_append_inj {m n : Nat} {c d : Char} {u v : List Char} (hc : ¬c.isDigit)
    (hd : ¬d.isDigit) (h : (decimal m).toList ++ c :: u = (decimal n).toList ++ d :: v) :
    m = n ∧ c = d ∧ u = v := by
  rw [decimal, decimal, String.toList_ofList, String.toList_ofList] at h
  obtain ⟨hdigits, hrest⟩ := append_cons_inj (p := fun c => c.isDigit = true)
    (fun _ => isDigit_of_mem_digits) (fun _ => isDigit_of_mem_digits) hc hd h
  exact ⟨digits_injective hdigits, hrest⟩

end LoopGauge.Text
