import LoopGauge.Proofs.Json.Layout

/-!
# Values on one line

The text of a value without blanks has no control characters, whatever its strings are: line feeds
and the like are escaped wherever they stand.

## Main definitions

* `Printable`: a text without control characters.

## Main statements

* `printable_compact`: values are written without control characters.
-/

namespace LoopGauge.Json

open Number Grammar

/-- No control character is in the text. -/
def Printable (cs : List Char) : Prop := ∀ c ∈ cs, 0x20 ≤ c.toNat

instance (cs : List Char) : Decidable (Printable cs) :=
  List.decidableBAll (fun c : Char => 0x20 ≤ c.toNat) cs

variable {c : Char} {cs ds : List Char}

@[simp]
theorem printable_nil : Printable [] := nofun

@[simp]
theorem printable_cons : Printable (c :: cs) ↔ 0x20 ≤ c.toNat ∧ Printable cs :=
  List.forall_mem_cons

@[simp]
theorem printable_append : Printable (cs ++ ds) ↔ Printable cs ∧ Printable ds :=
  List.forall_mem_append

section Numbers

theorem printable_of_isDigits (h : IsDigits cs) : Printable cs := by
  intro c hc
  have hrange : 48 ≤ c.toNat ∧ c.toNat ≤ 57 := by
    simpa [Char.isDigit, UInt32.le_iff_toNat_le] using h.2 c hc
  omega

theorem printable_of_isFraction (h : IsFraction cs) : Printable cs := by
  cases h with
  | none => exact printable_nil
  | some h => exact printable_cons.2 ⟨by decide, printable_of_isDigits h⟩

theorem printable_of_isExponent (h : IsExponent cs) : Printable cs := by
  cases h with
  | none => exact printable_nil
  | some he hsign h =>
    have hletter : ∀ e ∈ ['e', 'E'], 0x20 ≤ e.toNat := by simp
    have hsigns : ∀ sign ∈ [[], ['+'], ['-']], Printable sign := by decide
    simp [hletter _ he, hsigns _ hsign, printable_of_isDigits h]

theorem printable_of_isNumber (h : IsNumber cs) : Printable cs := by
  cases h with
  | positive hw hf he =>
    simp [printable_of_isDigits hw.digits, printable_of_isFraction hf, printable_of_isExponent he]
  | negative hw hf he =>
    simp [printable_of_isDigits hw.digits, printable_of_isFraction hf, printable_of_isExponent he]

theorem printable_realText (x : Binary64) : Printable (realText x) := by
  rw [realText]
  split
  · exact printable_of_isNumber (isNumber_text spelling x)
  · decide

end Numbers

/-- Control characters are escaped, by letters and digits. -/
theorem printable_escape (c : Char) : Printable (escape c) := by
  unfold escape
  split_ifs with _ _ _ _ _ _ _ hcontrol
  iterate 7
    · decide
  · have hall : ∀ n < 0x20,
        Printable ['\\', 'u', '0', '0', hexDigit (n / 16), hexDigit (n % 16)] := by decide
    exact hall c.toNat hcontrol
  · simpa using hcontrol

theorem printable_quote (s : String) : Printable (quote s) := by
  have hinner : Printable (s.toList.flatMap escape) := by
    intro c hc
    obtain ⟨d, -, hc⟩ := List.mem_flatMap.1 hc
    exact printable_escape d c hc
  simp [quote, hinner]

theorem printable_compactItems {vs : List Value} (h : ∀ v ∈ vs, Printable (compact v)) :
    Printable (compactItems vs) := by
  induction vs with
  | nil => exact printable_nil
  | cons v vs ih =>
    rw [List.forall_mem_cons] at h
    simp [compactItems, h.1, ih h.2]

theorem printable_compactEntries {es : List (String × Value)}
    (h : ∀ e ∈ es, Printable (compact e.2)) : Printable (compactEntries es) := by
  induction es with
  | nil => exact printable_nil
  | cons e es ih =>
    rw [List.forall_mem_cons] at h
    simp [compactEntries, printable_quote, h.1, ih h.2]

/-- Values are written without control characters. -/
theorem printable_compact (v : Value) : Printable (compact v) := by
  induction v using Value.induction with
  | null => decide
  | flag b => cases b <;> decide
  | whole n => exact printable_of_isNumber (isNumber_wholeText n)
  | real x => exact printable_realText x
  | text s => exact printable_quote s
  | array vs ih =>
    cases vs with
    | nil => decide
    | cons v vs =>
      rw [List.forall_mem_cons] at ih
      simp [compact, ih.1, printable_compactItems ih.2]
  | object es ih =>
    cases es with
    | nil => decide
    | cons e es =>
      rw [List.forall_mem_cons] at ih
      simp [compact, printable_quote, ih.1, printable_compactEntries ih.2]

end LoopGauge.Json
