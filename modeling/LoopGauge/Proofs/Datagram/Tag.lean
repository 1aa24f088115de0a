import LoopGauge.Engine.Round
import Mathlib.Algebra.Group.Nat.Defs

/-!
# Tags of rounds

A message of a round starts with the number of the round in 32 bits. Among the first `2 ^ 32`
rounds no two numbers have the same tag, so the tag of a message tells its round.

## Main statements

* `tagOf_injective`: the tag of a round tells its number.
* `Message.size_bytes`: a message has the size that was asked for.
* `Message.matchesTag_extract_iff`: a message matches the tag of its own round only, even if only
  its start is received.
-/

namespace LoopGauge.Engine

variable {size j k : Nat}

theorem size_tagOf (k : Nat) : (tagOf k).size = tagLength := rfl

theorem size_filled (size : Nat) (filler : UInt8) : (filled size filler).size = size := by
  simp [filled, ByteArray.size]

theorem ofNat_eq_of_tagOf_eq (h : tagOf j = tagOf k) : UInt32.ofNat j = UInt32.ofNat k := by
  simp only [tagOf, ByteArray.mk.injEq, Array.mk.injEq, List.cons.injEq, and_true] at h
  obtain ⟨hfirst, hsecond, hthird, hlast⟩ := h
  rw [← UInt8.toNat_inj] at hfirst hsecond hthird hlast
  simp only [UInt32.toNat_toUInt8, UInt32.toNat_shiftRight] at hfirst hsecond hthird hlast
  have hj := (UInt32.ofNat j).toNat_lt
  have hk := (UInt32.ofNat k).toNat_lt
  refine UInt32.toNat_inj.1 ?_
  simp [Nat.shiftRight_eq_div_pow] at hfirst hsecond hthird hlast hj hk ⊢
  omega

/-- The tag of a round tells its number, up to the round in which the tags start again. -/
theorem tagOf_injective (hj : 1 ≤ j) (hj' : j ≤ 2 ^ 32) (hk : 1 ≤ k) (hk' : k ≤ 2 ^ 32)
    (h : tagOf j = tagOf k) : j = k := by
  have hmod := congrArg UInt32.toNat (ofNat_eq_of_tagOf_eq h)
  rw [UInt32.toNat_ofNat', UInt32.toNat_ofNat'] at hmod
  omega

namespace Message

theorem bytes_ofRound (hsize : tagLength ≤ size) (k : Nat) :
    (ofRound size k).bytes = tagOf k ++ filled (size - tagLength) messageFiller := by
  rw [ofRound, if_pos hsize, bytes]

theorem size_bytes (size k : Nat) : (ofRound size k).bytes.size = size := by
  by_cases hsize : tagLength ≤ size
  · rw [bytes_ofRound hsize, ByteArray.size_append, size_tagOf, size_filled]
    omega
  · rw [ofRound, if_neg hsize, bytes, size_filled]

/-- The start of a message matches the tag of another round only if the tags are the same. -/
theorem matchesTag_extract_iff (hsize : tagLength ≤ size) (length : Nat) :
    (ofRound size j).matchesTag ((ofRound size k).bytes.extract 0 length) ↔
      tagLength ≤ length ∧ tagOf k = tagOf j := by
  have hlength : ((ofRound size k).bytes.extract 0 length).size = min length size := by
    rw [ByteArray.size_extract, size_bytes, Nat.sub_zero]
  have htag : tagLength ≤ length →
      ((ofRound size k).bytes.extract 0 length).extract 0 tagLength = tagOf k := by
    intro hle
    rw [ByteArray.extract_extract, Nat.zero_add, Nat.zero_add, Nat.min_eq_left hle,
      bytes_ofRound hsize, ← size_tagOf k, ByteArray.extract_append_size_left,
      ByteArray.extract_zero_size]
  have hexpected : (ofRound size j).tag = some (tagOf j) := by rw [ofRound, if_pos hsize]
  rw [matchesTag, hexpected]
  dsimp only
  rw [hlength, Bool.and_eq_true, decide_eq_true_eq, beq_iff_eq]
  constructor
  · rintro ⟨hle, hdata⟩
    have hle' : tagLength ≤ length := by omega
    rw [htag hle'] at hdata
    exact ⟨hle', ByteArray.ext hdata⟩
  · rintro ⟨hle, h⟩
    refine ⟨by omega, ?_⟩
    rw [htag hle, h]

end Message

end LoopGauge.Engine
