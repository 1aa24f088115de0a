import LoopGauge.Span
import Mathlib.Tactic.Ring

/-!
# Spans in words

A span is kept in two words, whole seconds and the nanoseconds that make none, and an equal share is
reckoned word by word: what is left of the seconds is shared out in nanoseconds. No word is too
small for that, and the share is the same as that of all nanoseconds together.

## Main definitions

* `Span.Words`: a span in two words.
* `Span.Words.divide?`: an equal share, unless something does not fit its word.

## Main statements

* `Span.divide?_words`: a share in words is a share of the span.
* `Span.toNat_millisWord_eq_iff`: which spans have their milliseconds in a word.
-/

namespace LoopGauge.Span

/-- A number as a word of 64 bits. -/
def word64? (n : Nat) : Option UInt64 := if n < 2 ^ 64 then some (UInt64.ofNat n) else none

/-- A number as a word of 32 bits. -/
def word32? (n : Nat) : Option UInt32 := if n < 2 ^ 32 then some (UInt32.ofNat n) else none

/-- Whole seconds, and the nanoseconds that make none. -/
structure Words where
  seconds : UInt64
  rest : UInt32
deriving DecidableEq, Repr

/-- The words of a span. -/
def words (s : Span) : Words := ⟨UInt64.ofNat s.seconds, UInt32.ofNat s.subsecond⟩

/-- An equal share. The seconds that are left over carry over to the nanoseconds. -/
def Words.divide? (w : Words) (count : UInt32) : Option Words := do
  let spare ← word64? ((w.seconds % count.toUInt64).toNat * 1000000000)
  let shared ← word64? (spare.toNat + (w.rest % count).toNat)
  let carry ← word32? (shared / count.toUInt64).toNat
  let rest ← word32? ((w.rest / count).toNat + carry.toNat)
  return ⟨w.seconds / count.toUInt64, rest⟩

theorem word64?_bind {α : Type} {n : Nat} (h : n < 2 ^ 64) (f : UInt64 → Option α) :
    (word64? n >>= f) = f (UInt64.ofNat n) := by
  rw [word64?, if_pos h]
  rfl

theorem word32?_bind {α : Type} {n : Nat} (h : n < 2 ^ 32) (f : UInt32 → Option α) :
    (word32? n >>= f) = f (UInt32.ofNat n) := by
  rw [word32?, if_pos h]
  rfl

variable {s : Span} {count : Nat}

theorem seconds_lt (s : Span) : s.seconds < 2 ^ 64 :=
  Nat.div_lt_of_lt_mul (Nat.mul_comm _ _ ▸ s.lt_limit)

theorem subsecond_lt (s : Span) : s.subsecond < 1000000000 := Nat.mod_lt _ (by decide)

theorem nanos_eq (s : Span) : s.nanos = s.seconds * 1000000000 + s.subsecond :=
  (Nat.div_add_mod' s.nanos 1000000000).symm

theorem seconds_divide (s : Span) (count : Nat) :
    (s.divide count).seconds = s.seconds / count := by
  rw [seconds, seconds, divide, Nat.div_div_eq_div_mul, Nat.div_div_eq_div_mul, Nat.mul_comm]

/-- What is left of the seconds is shared out in nanoseconds. -/
theorem subsecond_divide (s : Span) (hcount : 0 < count) :
    (s.divide count).subsecond = s.subsecond / count +
      (s.seconds % count * 1000000000 + s.subsecond % count) / count := by
  have hseconds := Nat.div_add_mod s.seconds count
  have hrest := Nat.div_add_mod s.subsecond count
  have hsplit : s.nanos = count * (s.seconds / count * 1000000000 + s.subsecond / count) +
      (s.seconds % count * 1000000000 + s.subsecond % count) := by
    rw [nanos_eq]
    generalize s.seconds / count = q, s.seconds % count = r, s.subsecond / count = q',
      s.subsecond % count = r' at *
    rw [← hseconds, ← hrest]
    ring
  have hnanos := nanos_eq (s.divide count)
  rw [seconds_divide] at hnanos
  have hshare : (s.divide count).nanos = s.nanos / count := rfl
  rw [hshare, hsplit, Nat.mul_add_div hcount] at hnanos
  omega

theorem words_divide (s : Span) (hcount : 0 < count) :
    (s.divide count).words = ⟨UInt64.ofNat (s.seconds / count), UInt32.ofNat (s.subsecond / count +
      (s.seconds % count * 1000000000 + s.subsecond % count) / count)⟩ := by
  rw [words, seconds_divide, subsecond_divide s hcount]

theorem toNat_seconds_words (s : Span) : s.words.seconds.toNat = s.seconds :=
  UInt64.toNat_ofNat_of_lt' s.seconds_lt

theorem toNat_rest_words (s : Span) : s.words.rest.toNat = s.subsecond :=
  UInt32.toNat_ofNat_of_lt' (Nat.lt_trans s.subsecond_lt (by decide))

theorem seconds_words_div (s : Span) (count : UInt32) :
    s.words.seconds / count.toUInt64 = UInt64.ofNat (s.seconds / count.toNat) := by
  have hshare : s.seconds / count.toNat < 2 ^ 64 :=
    Nat.lt_of_le_of_lt (Nat.div_le_self _ _) s.seconds_lt
  rw [← UInt64.toNat_inj, UInt64.toNat_div, toNat_seconds_words, UInt32.toNat_toUInt64,
    UInt64.toNat_ofNat_of_lt' hshare]

/-- What is left over is below the count, so it makes less than a second for each. -/
theorem leftover_lt {spare left : Nat} (hspare : spare < count) (hleft : left < count)
    (hcount : count < 2 ^ 32) : spare * 1000000000 + left < 2 ^ 64 := by
  omega

/-- No word is too small for a share, and the share is exact. -/
theorem divide?_words (s : Span) {count : UInt32} (hcount : count ≠ 0) :
    s.words.divide? count = some (s.divide count.toNat).words := by
  have hpos : 0 < count.toNat := Nat.pos_of_ne_zero fun h => hcount (UInt32.toNat_inj.1 h)
  have hlt : count.toNat < 2 ^ 32 := count.toNat_lt
  have hspare : (s.words.seconds % count.toUInt64).toNat = s.seconds % count.toNat := by
    rw [UInt64.toNat_mod, toNat_seconds_words, UInt32.toNat_toUInt64]
  have hleft : (s.words.rest % count).toNat = s.subsecond % count.toNat := by
    rw [UInt32.toNat_mod, toNat_rest_words]
  have hwhole : (s.words.rest / count).toNat = s.subsecond / count.toNat := by
    rw [UInt32.toNat_div, toNat_rest_words]
  have hspare_lt : s.seconds % count.toNat < count.toNat := Nat.mod_lt _ hpos
  have hleft_lt : s.subsecond % count.toNat < count.toNat := Nat.mod_lt _ hpos
  have hshare := subsecond_lt (s.divide count.toNat)
  rw [subsecond_divide s hpos] at hshare
  rw [words_divide s hpos, Words.divide?, hspare, hleft, hwhole, seconds_words_div]
  generalize s.seconds % count.toNat = spare, s.subsecond % count.toNat = left,
    s.subsecond / count.toNat = whole at *
  have hshared : spare * 1000000000 + left < 2 ^ 64 := leftover_lt hspare_lt hleft_lt hlt
  have hspared : spare * 1000000000 < 2 ^ 64 := Nat.lt_of_le_of_lt (Nat.le_add_right ..) hshared
  have hrest : whole + (spare * 1000000000 + left) / count.toNat < 2 ^ 32 :=
    Nat.lt_trans hshare (by decide)
  have hcarry : (spare * 1000000000 + left) / count.toNat < 2 ^ 32 :=
    Nat.lt_of_le_of_lt (Nat.le_add_left ..) hrest
  rw [word64?_bind hspared, UInt64.toNat_ofNat_of_lt' hspared, word64?_bind hshared,
    UInt64.toNat_div, UInt64.toNat_ofNat_of_lt' hshared, UInt32.toNat_toUInt64, word32?_bind hcarry,
    UInt32.toNat_ofNat_of_lt' hcarry, word32?_bind hrest]
  rfl

section Millis

/-- Whole milliseconds from the seconds and from the nanoseconds that make none. -/
theorem millis_eq (s : Span) :
    s.seconds * 1000 + s.subsecond / 1000000 = s.nanos / 1000000 := by
  rw [seconds, subsecond]
  omega

theorem toNat_millisWord (s : Span) : s.millisWord.toNat = s.nanos / 1000000 % 2 ^ 64 :=
  UInt64.toNat_ofNat'

theorem toNat_millisWord_eq_iff :
    s.millisWord.toNat = s.nanos / 1000000 ↔ s.nanos < 2 ^ 64 * 1000000 := by
  rw [toNat_millisWord]
  omega

theorem nanos_ofMillis_lt (ms : UInt64) : (ofMillis ms).nanos < 2 ^ 64 * 1000000 :=
  Nat.mul_lt_mul_of_pos_right ms.toNat_lt (by decide)

theorem toNat_millisWord_ofMillis (ms : UInt64) : (ofMillis ms).millisWord.toNat = ms.toNat := by
  rw [toNat_millisWord_eq_iff.2 (nanos_ofMillis_lt ms)]
  exact Nat.mul_div_cancel _ (by decide)

end Millis

end LoopGauge.Span
