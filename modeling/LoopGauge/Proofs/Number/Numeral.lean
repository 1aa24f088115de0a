import LoopGauge.Number.Numeral
import LoopGauge.Proofs.Number.Digits

/-!
# Numerals of bounded numbers

A numeral is read exactly if it consists of digits, a plus sign in front of them apart, and its
value does not pass the bound, however many zeros it starts with and however long it is.

## Main definitions

* `Numeral.unsigned`: a numeral without the sign in front of it.

## Main statements

* `Numeral.readDigits_eq_ok_iff`: what digits are read.
* `Numeral.word?_eq_ok_iff`: what words are read.
-/

namespace LoopGauge.Number.Numeral

variable {c : Char} {cs : List Char} {limit acc n : Nat} {tooFar : Problem}

theorem digitValue?_eq (c : Char) :
    digitValue? c = if c.isDigit then some (c.toNat - '0'.toNat) else none := by
  have hrange : ('0' ≤ c && c ≤ '9') = c.isDigit := by
    simp [Char.isDigit, Char.le_def]
  rw [digitValue?, hrange]

/-- Digits are read unless their number passes the limit. -/
theorem readDigits_eq_ok_iff (hacc : acc ≤ limit) :
    readDigits limit tooFar acc cs = .ok n ↔
      (∀ c ∈ cs, c.isDigit) ∧ Nat.ofDigitChars 10 cs acc = n ∧ n ≤ limit := by
  induction cs generalizing acc with
  | nil =>
    rw [readDigits, Nat.ofDigitChars_nil]
    constructor
    · rintro ⟨⟩
      exact ⟨nofun, rfl, hacc⟩
    · rintro ⟨-, rfl, -⟩
      rfl
  | cons c cs ih =>
    rw [readDigits, digitValue?_eq, List.forall_mem_cons, Nat.ofDigitChars_cons,
      Nat.mul_comm 10 acc]
    by_cases hc : c.isDigit
    · rw [if_pos hc]
      dsimp only
      generalize acc * 10 + (c.toNat - '0'.toNat) = value
      split
      next hfar =>
        -- More digits make a number no smaller, so this one has passed the limit for good.
        refine iff_of_false nofun fun ⟨_, hvalue, hle⟩ => ?_
        have hgrown := le_ofDigitChars value cs
        omega
      next hnear =>
        rw [ih (Nat.le_of_not_lt hnear), and_iff_right hc]
    · rw [if_neg hc]
      exact iff_of_false nofun fun h => hc h.1.1

/-- A numeral without the plus sign in front of it. -/
def unsigned : List Char → List Char
  | '+' :: cs => cs
  | cs => cs

/-- Without a digit there is nothing to read; otherwise the sign does not matter. -/
theorem unsigned?_cases (limit : Nat) (cs : List Char) :
    (unsigned cs = [] ∧ ∃ problem, unsigned? limit cs = .error problem) ∨
      (unsigned cs ≠ [] ∧ unsigned? limit cs = readDigits limit .tooLarge 0 (unsigned cs)) := by
  fun_cases unsigned? limit cs with
  | case1 => exact .inl ⟨rfl, _, rfl⟩
  | case2 => exact .inl ⟨rfl, _, rfl⟩
  | case3 cs hsome => exact .inr ⟨hsome, rfl⟩
  | case4 cs hne _ hplain =>
    rw [unsigned.eq_2 cs hplain]
    exact .inr ⟨hne, rfl⟩

/-- A number up to a limit is a numeral whose value does not pass it. -/
theorem unsigned?_eq_ok_iff :
    unsigned? limit cs = .ok n ↔ unsigned cs ≠ [] ∧ (∀ c ∈ unsigned cs, c.isDigit) ∧
      Nat.ofDigitChars 10 (unsigned cs) 0 = n ∧ n ≤ limit := by
  obtain ⟨hnil, problem, hproblem⟩ | ⟨hne, hread⟩ := unsigned?_cases limit cs
  · rw [hproblem]
    exact iff_of_false nofun fun h => h.1 hnil
  · rw [hread, readDigits_eq_ok_iff (Nat.zero_le _), and_iff_right hne]

/-- A word is a numeral whose value fits. -/
theorem word?_eq_ok_iff {w : UInt64} :
    word? cs = .ok w ↔ unsigned cs ≠ [] ∧ (∀ c ∈ unsigned cs, c.isDigit) ∧
      Nat.ofDigitChars 10 (unsigned cs) 0 = w.toNat := by
  have hfits : w.toNat ≤ wordLimit := Nat.le_of_lt_succ w.toNat_lt
  rw [word?]
  constructor
  · intro h
    obtain ⟨n, hn, hw⟩ : ∃ n, unsigned? wordLimit cs = .ok n ∧ UInt64.ofNat n = w := by
      cases hread : unsigned? wordLimit cs with
      | error problem => simp [hread, Except.map] at h
      | ok n => exact ⟨n, rfl, by simpa [hread, Except.map] using h⟩
    obtain ⟨hne, hdigits, hvalue, hle⟩ := unsigned?_eq_ok_iff.1 hn
    subst hw
    exact ⟨hne, hdigits, by rw [hvalue, UInt64.toNat_ofNat_of_lt' (Nat.lt_succ_of_le hle)]⟩
  · rintro ⟨hne, hdigits, hvalue⟩
    rw [unsigned?_eq_ok_iff.2 ⟨hne, hdigits, hvalue, hfits⟩, Except.map, UInt64.ofNat_toNat]

end LoopGauge.Number.Numeral
