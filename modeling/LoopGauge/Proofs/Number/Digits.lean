import LoopGauge.Number.Fixed
import Mathlib.Algebra.Group.Nat.Defs
import Mathlib.Data.List.DropRight

/-!
# Decimal digits

Numerals are made of digits and tell their number, also with zeros in front of them, and with a
point before the decimals.

## Main statements

* `digits_injective`: a decimal numeral tells the number.
* `ofDigitChars_paddedDigits`: zeros in front do not change the number.
* `ofDigitChars_pointedDigits`: a numeral with decimals tells its number in steps of the last one.
-/

namespace LoopGauge.Number

theorem digits_ne_nil (n : Nat) : digits n ≠ [] := Nat.toDigits_ne_nil

theorem ofDigitChars_digits (n : Nat) : Nat.ofDigitChars 10 (digits n) 0 = n :=
  Nat.ofDigitChars_ten_toDigits

theorem digits_injective {m n : Nat} (h : digits m = digits n) : m = n := by
  rw [← ofDigitChars_digits m, h, ofDigitChars_digits]

theorem isDigit_of_mem_digits {n : Nat} {c : Char} (h : c ∈ digits n) : c.isDigit :=
  Nat.isDigit_of_mem_toDigits (by omega) (by omega) h

/-- A numeral of a positive number does not start with a zero. -/
theorem head?_digits_ne {n : Nat} (hn : 0 < n) : (digits n).head? ≠ some '0' := by
  induction n using Nat.strong_induction_on with
  | h n ih =>
    rw [digits, Nat.toDigits_eq_if (by decide)]
    split
    next hlt => simpa using hn.ne'
    next hge =>
      have hrest := ih (n / 10) (by omega) (by omega)
      rwa [List.head?_append_of_ne_nil _ Nat.toDigits_ne_nil]

theorem le_ofDigitChars (acc : Nat) (ds : List Char) : acc ≤ Nat.ofDigitChars 10 ds acc := by
  rw [Nat.ofDigitChars_eq_ofDigitChars_zero]
  have hpos : 0 < 10 ^ ds.length := Nat.pow_pos (by decide)
  calc acc ≤ 10 ^ ds.length * acc := Nat.le_mul_of_pos_left acc hpos
    _ ≤ _ := Nat.le_add_right _ _

/-- What is taken of a text ends before the first character that does not belong to it. -/
theorem takeWhile_append_of_head {α : Type} {p : α → Bool} {as rest : List α}
    (has : ∀ a ∈ as, p a) (hrest : ∀ a, rest.head? = some a → ¬p a) :
    (as ++ rest).takeWhile p = as := by
  have hnone : rest.takeWhile p = [] := by
    cases rest with
    | nil => rfl
    | cons a rest => exact List.takeWhile_cons_of_neg (hrest a rfl)
  rw [List.takeWhile_append_of_pos has, hnone, List.append_nil]

section Padded

variable {width n : Nat} {c : Char}

theorem isDigit_of_mem_paddedDigits (h : c ∈ paddedDigits width n) : c.isDigit := by
  rw [paddedDigits, List.mem_append] at h
  obtain h | h := h
  · rw [List.eq_of_mem_replicate h]
    decide
  · exact isDigit_of_mem_digits h

theorem paddedDigits_ne_nil (width n : Nat) : paddedDigits width n ≠ [] :=
  List.append_ne_nil_of_right_ne_nil _ (digits_ne_nil n)

theorem length_paddedDigits (hwidth : 0 < width) (h : n < 10 ^ width) :
    (paddedDigits width n).length = width := by
  have hle : (digits n).length ≤ width := (Nat.length_toDigits_le_iff (by decide) hwidth).2 h
  rw [paddedDigits, List.length_append, List.length_replicate]
  omega

/-- Zeros in front do not change the number. -/
theorem ofDigitChars_paddedDigits (width n : Nat) :
    Nat.ofDigitChars 10 (paddedDigits width n) 0 = n := by
  rw [paddedDigits, Nat.ofDigitChars_append, Nat.ofDigitChars_replicate_zero, Nat.mul_zero,
    ofDigitChars_digits]

end Padded

section Pointed

variable {places n : Nat} {c : Char}

theorem isDigit_or_of_mem_pointedDigits (h : c ∈ pointedDigits places n) : c.isDigit ∨ c = '.' := by
  rw [pointedDigits] at h
  split at h
  · exact .inl (isDigit_of_mem_digits h)
  · obtain h | h := List.mem_append.1 h
    · exact .inl (isDigit_of_mem_digits h)
    · obtain rfl | h := List.mem_cons.1 h
      · exact .inr rfl
      · exact .inl (isDigit_of_mem_paddedDigits h)

/-- Without its point, a numeral with decimals counts the steps of the last one. -/
theorem ofDigitChars_pointedDigits (places n : Nat) :
    Nat.ofDigitChars 10 ((pointedDigits places n).filter Char.isDigit) 0 = n := by
  have hwhole : (digits (n / tenTo places)).filter Char.isDigit = digits (n / tenTo places) :=
    List.filter_eq_self.2 fun c hc => isDigit_of_mem_digits hc
  by_cases hplaces : places = 0
  · subst hplaces
    rw [pointedDigits, if_pos rfl, hwhole, ofDigitChars_digits]
    exact Nat.div_one n
  · have hpos : 0 < tenTo places := Nat.pow_pos (by decide)
    have hrest : n % tenTo places < 10 ^ places := Nat.mod_lt n hpos
    have hdecimals : (paddedDigits places (n % tenTo places)).filter Char.isDigit =
        paddedDigits places (n % tenTo places) :=
      List.filter_eq_self.2 fun c hc => isDigit_of_mem_paddedDigits hc
    rw [pointedDigits, if_neg hplaces, List.filter_append, hwhole,
      List.filter_cons_of_neg (by decide), hdecimals, Nat.ofDigitChars_append, ofDigitChars_digits,
      Nat.ofDigitChars_eq_ofDigitChars_zero, ofDigitChars_paddedDigits,
      length_paddedDigits (Nat.pos_of_ne_zero hplaces) hrest]
    exact Nat.div_add_mod n (tenTo places)

end Pointed

end LoopGauge.Number
