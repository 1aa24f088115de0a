import LoopGauge.Proofs.Json.Decoding
import LoopGauge.Proofs.Json.Keys

/-!
# Reading values of any kind back

Values without real numbers are read back as they are, if they are not nested too deep and the keys
of their objects are in order. The entries of an object as a whole may be in any order: they are
read sorted.

## Main definitions

* `Plain levels v`: a value without real numbers that is nested at most so deep.

## Main statements

* `takes_anything`, `takes_anyObject`: what is read of a value of any kind.
-/

namespace LoopGauge.Json

open Number

/-- Values without real numbers, with lists and objects nested at most so deep. The keys of objects
are distinct and in order. -/
inductive Plain : Nat → Value → Prop where
  | null {levels : Nat} : Plain levels .null
  | flag {levels : Nat} (b : Bool) : Plain levels (.flag b)
  | whole {levels : Nat} {n : Int} (hlow : -(twoTo 63 : Int) ≤ n) (hhigh : n ≤ wordLimit) :
      Plain levels (.whole n)
  | text {levels : Nat} (s : String) : Plain levels (.text s)
  | array {levels : Nat} {vs : List Value} (h : ∀ v ∈ vs, Plain levels v) :
      Plain (levels + 1) (.array vs)
  | object {levels : Nat} {es : List (String × Value)}
      (hkeys : es.Pairwise fun e e' => e.1 < e'.1) (h : ∀ e ∈ es, Plain levels e.2) :
      Plain (levels + 1) (.object es)

variable {levels : Nat} {v : Value} {es : List (String × Value)}

theorem Plain.fits (h : Plain levels v) : v.Fits := by
  induction h with
  | null => exact .null
  | flag b => exact .flag b
  | whole hlow hhigh => exact .whole hlow hhigh
  | text s => exact .text s
  | array _ ih => exact .array ih
  | object _ _ ih => exact .object ih

theorem anyItems_eq_items (room : Nat) (ts : List Tree) :
    anyItems room ts = Decoder.items anything room ts := by
  induction ts with
  | nil => rfl
  | cons t ts ih => rw [anyItems, Decoder.items, ih]

theorem anyEntries_eq (h : ∀ e ∈ es, Takes anything levels e.2 e.2) {room : Nat}
    (hroom : levels ≤ room) {ts : List (Literal × Tree)} (hts : List.Forall₂ SaysEntry ts es) :
    anyEntries room ts = .ok es := by
  induction hts with
  | nil => rfl
  | @cons t e ts es ht _ ih =>
    rw [List.forall_mem_cons] at h
    simp only [anyEntries, ht.1, h.1 room t.2 hroom ht.2, ih h.2, bind, Except.bind, pure,
      Except.pure]

/-- A value without real numbers is read back as it is. -/
theorem takes_anything (h : Plain levels v) : Takes anything levels v v := by
  induction h with
  | null =>
    rintro room t - ⟨⟩
    rfl
  | flag b => rintro room t - ⟨⟩ <;> rfl
  | whole hlow hhigh =>
    rintro room t - ⟨⟩
    next n hn => simp only [anything, hn, bind, Except.bind, pure, Except.pure]
  | text s =>
    rintro room t - ⟨⟩
    next l hl => simp only [anything, hl, bind, Except.bind, pure, Except.pure]
  | array _ ih =>
    intro room t hroom ht
    obtain ⟨ts, rfl, hts⟩ := says_array_iff.1 ht
    obtain ⟨inner, hdeeper, hinner⟩ := deeper_of_le hroom
    have hitems := items_eq (List.forall₂_same.2 ih) hinner hts
    simp only [anything, hdeeper, anyItems_eq_items, hitems, Ending.check, bind, Except.bind, pure,
      Except.pure]
  | object hkeys _ ih =>
    intro room t hroom ht
    obtain ⟨ts, rfl, hts⟩ := says_object_iff.1 ht
    obtain ⟨inner, hdeeper, hinner⟩ := deeper_of_le hroom
    simp only [anything, hdeeper, anyEntries_eq ih hinner hts, Ending.check, bind, Except.bind,
      pure, Except.pure, sortKeys_eq_self hkeys]

/-- The entries of an object are read back sorted. -/
theorem takes_anyObject (h : ∀ e ∈ es, Plain levels e.2) :
    Takes .anyObject (levels + 1) (.object es) (sortKeys es) := by
  intro room t hroom ht
  obtain ⟨ts, rfl, hts⟩ := says_object_iff.1 ht
  obtain ⟨inner, hdeeper, hinner⟩ := deeper_of_le hroom
  have hentries := anyEntries_eq (fun e he => takes_anything (h e he)) hinner hts
  simp only [Decoder.anyObject, hdeeper, hentries, Ending.check, bind, Except.bind, pure,
    Except.pure]

end LoopGauge.Json
