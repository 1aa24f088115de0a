import LoopGauge.Proofs.Number.Digits
import LoopGauge.Proofs.Number.Rounding
import LoopGauge.Report.Units
import Mathlib.Algebra.Order.Field.Basic
import Mathlib.Algebra.Order.Field.Rat
import Mathlib.Tactic.Linarith
import Mathlib.Tactic.FieldSimp
import Mathlib.Tactic.GCongr

/-!
# Byte counts in units

A byte count is shown in the largest unit of which it holds one, with one or two decimals. Up to
`2 ^ 53` bytes the only error is that of the last decimal, and of two counts the larger one is
never shown as less. The unit is chosen before the decimals are rounded, so a count just below the
next unit is shown as 1024 of its own.

## Main definitions

* `ByteUnit`: the units, with their sizes, decimals and names.
* `ByteUnit.text`: a number of steps of the last decimal, with the unit.

## Main statements

* `ByteUnit.text_injective`: a text tells its number and its unit.
* `bytes_eq`: what is shown.
* `bytes_in_order`: the error, the order, and which counts are shown as 1024.
-/

namespace LoopGauge.Report

open Number

/-- The units of byte counts. -/
inductive ByteUnit where
  | byte
  | kibi
  | mebi
  | gibi
deriving DecidableEq

namespace ByteUnit

variable {u v : ByteUnit} {m n a b k : Nat}

/-- The power of two that the unit is. -/
def exponent : ByteUnit → Nat
  | byte => 0
  | kibi => 10
  | mebi => 20
  | gibi => 30

/-- How many bytes the unit has. -/
def size (u : ByteUnit) : Nat := twoTo u.exponent

/-- How many decimals are shown. -/
def places : ByteUnit → Nat
  | byte => 0
  | kibi | mebi => 1
  | gibi => 2

def suffix : ByteUnit → String
  | byte => "B"
  | kibi => "KiB"
  | mebi => "MiB"
  | gibi => "GiB"

/-- A number of steps of the last decimal, with the unit. -/
def text (u : ByteUnit) (m : Nat) : String :=
  String.ofList (pointedDigits u.places m) ++ u.suffix

/-- The number before the unit. -/
def number (u : ByteUnit) (m : Nat) : ℚ := m / tenTo u.places

/-- The bytes that a step of the last decimal stands for. -/
def step (u : ByteUnit) : ℚ := u.size / tenTo u.places

/-- The largest unit of which a count holds one. -/
def ofCount (n : Nat) : ByteUnit :=
  if gibi.size ≤ n then gibi
  else if mebi.size ≤ n then mebi
  else if kibi.size ≤ n then kibi
  else byte

/-- A count in steps of the last decimal, rounded. -/
def figure (u : ByteUnit) (n : Nat) : Nat := roundHalfEven (n * tenTo u.places) u.size

theorem size_pos (u : ByteUnit) : 0 < u.size := twoTo_pos _

/-- Some steps of the last decimal make one of the unit. -/
theorem steps_pos (u : ByteUnit) : (0 : ℚ) < tenTo u.places := by
  exact_mod_cast tenTo_pos u.places

section Text

/-- Without digits and points, a text is the name of its unit. -/
theorem filter_text (u : ByteUnit) (m : Nat) :
    (u.text m).toList.filter (fun c => !(c.isDigit || c == '.')) = u.suffix.toList := by
  have hnumeral : (pointedDigits u.places m).filter (fun c => !(c.isDigit || c == '.')) = [] := by
    refine List.filter_eq_nil_iff.2 fun c hc => ?_
    simpa [or_iff_not_imp_left] using isDigit_or_of_mem_pointedDigits hc
  rw [text, String.toList_append, String.toList_ofList, List.filter_append, hnumeral]
  cases u <;> decide

/-- A text tells its unit and its number. -/
theorem text_injective (h : u.text m = v.text k) : u = v ∧ m = k := by
  have hsuffix : u.suffix.toList = v.suffix.toList := by
    rw [← filter_text u m, h, filter_text]
  obtain rfl : u = v := by
    cases u <;> cases v <;> first | rfl | exact absurd hsuffix (by decide)
  have hnumeral : pointedDigits u.places m = pointedDigits u.places k := by
    have hlist := congrArg String.toList h
    rw [text, text, String.toList_append, String.toList_append] at hlist
    simpa using List.append_cancel_right hlist
  refine ⟨rfl, ?_⟩
  rw [← ofDigitChars_pointedDigits u.places m, hnumeral, ofDigitChars_pointedDigits]

end Text

section Figures

/-- The count holds the unit, but not the next one. -/
structure Suits (u : ByteUnit) (n : Nat) : Prop where
  lower : u ≠ byte → u.size ≤ n
  upper : u ≠ gibi → n < 1024 * u.size

theorem suits_ofCount (n : Nat) : (ofCount n).Suits n := by
  have hkibi : kibi.size = 1024 * byte.size := rfl
  have hmebi : mebi.size = 1024 * kibi.size := rfl
  have hgibi : gibi.size = 1024 * mebi.size := rfl
  rw [ofCount]
  split_ifs with hg hm hk
  · exact ⟨fun _ => hg, fun hne => absurd rfl hne⟩
  · exact ⟨fun _ => hm, fun _ => by omega⟩
  · exact ⟨fun _ => hk, fun _ => by omega⟩
  · exact ⟨fun hne => absurd rfl hne, fun _ => by omega⟩

theorem size_le_of_exponent (h : 10 + u.exponent ≤ v.exponent) : 1024 * u.size ≤ v.size := by
  calc 1024 * u.size = twoTo (10 + u.exponent) := (twoTo_add 10 u.exponent).symm
    _ ≤ v.size := Nat.pow_le_pow_right (by decide) h

/-- A larger count has the same unit or one that is at least 1024 of it. -/
theorem size_le_size (hu : u.Suits a) (hv : v.Suits b) (h : a ≤ b) :
    u = v ∨ 1024 * u.size ≤ v.size := by
  have hapart : u = v ∨ 10 + u.exponent ≤ v.exponent ∨ 10 + v.exponent ≤ u.exponent := by
    cases u <;> cases v <;> decide
  obtain heq | hle | hle := hapart
  · exact .inl heq
  · exact .inr (size_le_of_exponent hle)
  · -- The other way round, the larger count would be below the smaller one.
    have hlower := hu.lower (by rintro rfl; simp [exponent] at hle)
    have hupper := hv.upper (by rintro rfl; cases u <;> simp [exponent] at hle)
    have hlarge := size_le_of_exponent hle
    omega

theorem figure_mono (u : ByteUnit) (h : a ≤ b) : u.figure a ≤ u.figure b :=
  roundHalfEven_mono (Nat.mul_le_mul_right _ h)

theorem figure_mul_size (u : ByteUnit) (k : Nat) : u.figure (k * u.size) = k * tenTo u.places := by
  rw [figure, Nat.mul_right_comm, roundHalfEven_mul_self u.size_pos]

theorem number_mul (u : ByteUnit) (k : Nat) : u.number (k * tenTo u.places) = k := by
  rw [number, Nat.cast_mul, mul_div_cancel_right₀ _ u.steps_pos.ne']

theorem number_mono (u : ByteUnit) (h : m ≤ k) : u.number m ≤ u.number k := by
  rw [number, number]
  gcongr

/-- The error is half a step of the last decimal at most. -/
theorem figure_error (u : ByteUnit) (n : Nat) :
    |u.number (u.figure n) * u.size - n| ≤ u.step / 2 := by
  have hpos := u.steps_pos
  obtain ⟨hlow, hhigh⟩ := roundHalfEven_error u.size_pos (n * tenTo u.places)
  rw [← figure] at hlow hhigh
  have hscaled : |(u.figure n * u.size - n * tenTo u.places : ℚ)| ≤ u.size / 2 := by
    have hlow : (2 * (n * tenTo u.places) : ℚ) ≤ 2 * (u.figure n * u.size) + u.size := by
      exact_mod_cast hlow
    have hhigh : (2 * (u.figure n * u.size) : ℚ) ≤ 2 * (n * tenTo u.places) + u.size := by
      exact_mod_cast hhigh
    exact abs_le.2 ⟨by linarith, by linarith⟩
  calc |u.number (u.figure n) * u.size - n|
      = |(u.figure n * u.size - n * tenTo u.places : ℚ) / tenTo u.places| := by
        rw [number]
        congr 1
        field_simp
    _ = |(u.figure n * u.size - n * tenTo u.places : ℚ)| / tenTo u.places := by
        rw [abs_div, abs_of_pos hpos]
    _ ≤ u.size / 2 / tenTo u.places := by gcongr
    _ = u.step / 2 := by rw [step, div_right_comm]

/-- The number is one at least. -/
theorem Suits.one_le (h : u.Suits n) (hne : u ≠ byte) : 1 ≤ u.number (u.figure n) := by
  have hfigure : u.figure (1 * u.size) ≤ u.figure n :=
    u.figure_mono ((Nat.one_mul _).trans_le (h.lower hne))
  calc (1 : ℚ) = u.number (1 * tenTo u.places) := by rw [number_mul, Nat.cast_one]
    _ ≤ u.number (u.figure n) := u.number_mono (figure_mul_size u 1 ▸ hfigure)

/-- The number is 1024 at most. -/
theorem Suits.le_1024 (h : u.Suits n) (hne : u ≠ gibi) : u.number (u.figure n) ≤ 1024 := by
  have hfigure := u.figure_mono (Nat.le_of_lt (h.upper hne))
  rw [figure_mul_size] at hfigure
  calc u.number (u.figure n) ≤ u.number (1024 * tenTo u.places) := u.number_mono hfigure
    _ = 1024 := number_mul u 1024

/-- The number is below 1024 unless the count is within half a step of that. -/
theorem number_lt_iff (u : ByteUnit) (n : Nat) :
    u.number (u.figure n) < 1024 ↔ n + u.step / 2 < 1024 * u.size := by
  have hpos := u.steps_pos
  have heven : 1024 * tenTo u.places % 2 = 0 := by omega
  have hround := roundHalfEven_lt_iff (a := n * tenTo u.places) u.size_pos heven
  rw [← figure] at hround
  have hscaled : (n + u.step / 2 : ℚ) =
      (2 * (n * tenTo u.places) + u.size) / (2 * tenTo u.places) := by
    rw [step]
    field_simp
  have hturned : (2 * (1024 * tenTo u.places * u.size) : ℚ) =
      1024 * u.size * (2 * tenTo u.places) := by ring
  calc u.number (u.figure n) < 1024
      ↔ (u.figure n : ℚ) < 1024 * tenTo u.places := by rw [number, div_lt_iff₀ hpos]
    _ ↔ (2 * (n * tenTo u.places) + u.size : ℚ) < 2 * (1024 * tenTo u.places * u.size) := by
        exact_mod_cast hround
    _ ↔ (2 * (n * tenTo u.places) + u.size : ℚ) < 1024 * u.size * (2 * tenTo u.places) := by
        rw [hturned]
    _ ↔ n + u.step / 2 < 1024 * u.size := by rw [hscaled, div_lt_iff₀ (by positivity)]

/-- The quantity that is shown for a larger count is no less. -/
theorem number_mul_size_mono (hu : u.Suits a) (hv : v.Suits b) (h : a ≤ b) :
    u.number (u.figure a) * u.size ≤ v.number (v.figure b) * v.size := by
  obtain rfl | hsize := size_le_size hu hv h
  · have hnumber := u.number_mono (u.figure_mono h)
    gcongr
  · -- What is shown in a smaller unit is 1024 of it at most, in a larger one at least one of it.
    have hfirst : u ≠ gibi := by
      rintro rfl
      cases v <;> exact absurd hsize (by decide)
    have hsecond : v ≠ byte := by
      rintro rfl
      cases u <;> exact absurd hsize (by decide)
    have hone := hv.one_le hsecond
    calc u.number (u.figure a) * u.size ≤ 1024 * u.size := by gcongr; exact hu.le_1024 hfirst
      _ ≤ v.size := by exact_mod_cast hsize
      _ ≤ v.number (v.figure b) * v.size := le_mul_of_one_le_left (by positivity) hone

end Figures

end ByteUnit

open ByteUnit

section Shown

variable {n : Nat}

theorem le_ofNat_iff (u : ByteUnit) (hn : n ≤ twoTo 53) :
    (Binary64.ofNat u.size).le (Binary64.ofNat n) ↔ u.size ≤ n := by
  have hsize : u.size ≤ twoTo 53 := by cases u <;> decide
  rw [(Binary64.hasUnits_ofNat hsize).le_iff (Binary64.hasUnits_ofNat hn),
    Nat.mul_le_mul_right_iff Binary64.unitsPerOne_pos]

theorem fixed_div (u : ByteUnit) (hn : n ≤ twoTo 53) :
    (Binary64.ofNat n / Binary64.ofNat u.size).fixed u.places =
      String.ofList (pointedDigits u.places (u.figure n)) := by
  have hsize : u.size ≤ twoTo 53 := by cases u <;> decide
  have hexponent : u.exponent ≤ 1074 := by cases u <;> decide
  have hunits := Binary64.HasUnits.div hn hexponent (Binary64.hasUnits_ofNat hn)
    (Binary64.hasUnits_ofNat hsize)
  exact hunits.fixed hexponent u.places

/-- A count in bytes is shown as it is. -/
theorem decimal_eq (n : Nat) : decimal n ++ "B" = byte.text (byte.figure n) := by
  have hfigure : byte.figure (n * 1) = n * 1 := figure_mul_size byte n
  rw [Nat.mul_one] at hfigure
  have hpointed : pointedDigits 0 n = digits n := congrArg digits (Nat.div_one n)
  rw [hfigure, text, decimal, ← hpointed]
  rfl

/-- What is shown of a count that a double holds exactly. -/
theorem bytes_eq {n : UInt64} (hn : n.toNat ≤ twoTo 53) :
    bytes n = (ofCount n.toNat).text ((ofCount n.toNat).figure n.toNat) := by
  have hgib : gib.le (Binary64.ofNat n.toNat) ↔ gibi.size ≤ n.toNat := le_ofNat_iff gibi hn
  have hmib : mib.le (Binary64.ofNat n.toNat) ↔ mebi.size ≤ n.toNat := le_ofNat_iff mebi hn
  have hkib : kib.le (Binary64.ofNat n.toNat) ↔ kibi.size ≤ n.toNat := le_ofNat_iff kibi hn
  simp only [bytes, ofCount, hgib, hmib, hkib]
  split_ifs
  · exact congrArg (· ++ "GiB") (fixed_div gibi hn)
  · exact congrArg (· ++ "MiB") (fixed_div mebi hn)
  · exact congrArg (· ++ "KiB") (fixed_div kibi hn)
  · exact decimal_eq n.toNat

end Shown

/-- A byte count is shown with an error of half the last decimal at most, a larger one is never
shown as less, and the number before the unit is at least one, and below 1024 unless the count is
within half the last decimal of the next unit. -/
theorem bytes_in_order (n : UInt64) (hn : n.toNat ≤ 2 ^ 53) :
    (∃ u m, bytes n = ByteUnit.text u m) ∧
    ∀ (u : ByteUnit) (m : Nat), bytes n = u.text m →
      |u.number m * u.size - n.toNat| ≤ u.step / 2 ∧
      (∀ n' : UInt64, n ≤ n' → n'.toNat ≤ 2 ^ 53 →
        ∀ (v : ByteUnit) (k : Nat), bytes n' = v.text k →
          u.number m * u.size ≤ v.number k * v.size) ∧
      (u ≠ .byte → 1 ≤ u.number m) ∧
      (u ≠ .gibi → u.number m ≤ 1024 ∧
        (u.number m < 1024 ↔ n.toNat + u.step / 2 < 1024 * u.size)) := by
  have hsuits := suits_ofCount n.toNat
  refine ⟨⟨_, _, bytes_eq hn⟩, fun u m htext => ?_⟩
  obtain ⟨rfl, rfl⟩ := text_injective ((bytes_eq hn).symm.trans htext)
  refine ⟨figure_error _ _, fun n' hle hn' v k htext' => ?_, hsuits.one_le,
    fun hne => ⟨hsuits.le_1024 hne, number_lt_iff _ _⟩⟩
  obtain ⟨rfl, rfl⟩ := text_injective ((bytes_eq hn').symm.trans htext')
  exact number_mul_size_mono hsuits (suits_ofCount _) (UInt64.le_iff_toNat_le.1 hle)

theorem bytes_in_order_megabyte :
    bytes 1048524 = "1023.9KiB" ∧ kibi.number 10239 < 1024 ∧
      bytes 1048576 = "1.0MiB" ∧ |mebi.number 10 * mebi.size - 1048576| ≤ mebi.step / 2 ∧
      kibi.number 10239 * kibi.size ≤ mebi.number 10 * mebi.size := by
  have hlow : bytes 1048524 = kibi.text 10239 := by decide +kernel
  have hhigh : bytes 1048576 = mebi.text 10 := by decide +kernel
  obtain ⟨-, hall⟩ := bytes_in_order 1048524 (by decide)
  obtain ⟨-, horder, -, hlimit⟩ := hall kibi 10239 hlow
  have hcount : (1048524 : UInt64).toNat = 1048524 := rfl
  have hbelow := (hlimit (by decide)).2.2 (by
    norm_num [hcount, step, size, exponent, places, twoTo, tenTo])
  refine ⟨hlow.trans (by decide), hbelow, hhigh.trans (by decide), ?_, ?_⟩
  · exact ((bytes_in_order 1048576 (by decide)).2 mebi 10 hhigh).1
  · exact horder 1048576 (by decide) (by decide) mebi 10 hhigh

/-- One byte less than the next unit is shown as 1024 of this one. -/
theorem bytes_below_megabyte :
    (1048575 : UInt64).toNat ≤ 2 ^ 53 ∧ bytes 1048575 = kibi.text 10240 ∧
      kibi.text 10240 = "1024.0KiB" ∧ ¬kibi.number 10240 < 1024 := by
  refine ⟨by decide, by decide +kernel, by decide +kernel, ?_⟩
  norm_num [number, places, tenTo]

end LoopGauge.Report
