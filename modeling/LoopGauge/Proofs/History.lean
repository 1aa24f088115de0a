/-!
# Lists that grow at their end

What has happened is written down in a list, and each new entry is put at its end. An entry is then
either the new one or was there before, at the same place and after the same entries.
-/

namespace LoopGauge

variable {α β : Type} {as before after : List α} {a b : α} {i : Nat}

/-- What is found in a list with one more element. -/
theorem getElem?_concat_eq_some_iff :
    (as ++ [a])[i]? = some b ↔ as[i]? = some b ∨ i = as.length ∧ a = b := by
  by_cases hi : i < as.length
  · rw [List.getElem?_append_left hi]
    simp [Nat.ne_of_lt hi]
  · have hge := Nat.le_of_not_lt hi
    rw [List.getElem?_append_right hge, List.getElem?_eq_none hge]
    by_cases hlast : i = as.length
    · simp [hlast]
    · rw [List.getElem?_eq_none (by simp; omega)]
      simp [hlast]

/-- The last thing that entries of some kind say is what the new one says, if it is of that kind. -/
theorem getLast?_filterMap_concat (f : α → Option β) :
    ((as ++ [a]).filterMap f).getLast? = (f a).or (as.filterMap f).getLast? := by
  rw [List.filterMap_append, List.getLast?_append]
  cases h : f a with
  | none => rw [List.filterMap_cons_none h]; rfl
  | some b => rw [List.filterMap_cons_some h]; rfl

/-- An element of a list with one more element, and what stands before and after it. -/
theorem concat_eq_append_cons_iff :
    as ++ [a] = before ++ b :: after ↔
      (before = as ∧ b = a ∧ after = []) ∨
        ∃ after', as = before ++ b :: after' ∧ after = after' ++ [a] := by
  constructor
  · intro h
    obtain rfl | ⟨after', last, rfl⟩ := after.eq_nil_or_concat
    · obtain ⟨rfl, hlast⟩ := List.append_inj' h rfl
      exact .inl ⟨rfl, (List.singleton_inj.1 hlast).symm, rfl⟩
    · rw [List.concat_eq_append, ← List.cons_append, ← List.append_assoc] at h
      obtain ⟨rfl, hlast⟩ := List.append_inj' h rfl
      exact .inr ⟨after', rfl, by rw [List.concat_eq_append, hlast]⟩
  · rintro (⟨rfl, rfl, rfl⟩ | ⟨after', rfl, rfl⟩)
    · rfl
    · simp

end LoopGauge
