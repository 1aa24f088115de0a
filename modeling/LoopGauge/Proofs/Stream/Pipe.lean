import LoopGauge.Engine.Service
import LoopGauge.Engine.Host
import LoopGauge.Proofs.Moment

/-!
# Pipes of bytes

A stream in one direction: whatever is written arrives once, in order and unaltered, cut into other
pieces than it was written in and as late as it likes. A stream in both directions is a pair of
pipes, one that a party writes to and one that it reads from.

## Main definitions

* `Pipe`: what was ever read, and what is still under way.
* `Pipe.Conveys`: what a stream answers to a party.

## Main statements

* `Pipe.read_prefix_written`: what was read is the beginning of what was written.
-/

namespace LoopGauge.Engine

/-- The bytes of a block. -/
def bytesOf (data : ByteArray) : List UInt8 := data.data.toList

theorem length_bytesOf (data : ByteArray) : (bytesOf data).length = data.size :=
  Array.length_toList

/-- What is left of a block behind its first bytes. -/
theorem bytesOf_extract_size (data : ByteArray) (start : Nat) :
    bytesOf (data.extract start data.size) = (bytesOf data).drop start := by
  rw [bytesOf, ByteArray.data_extract, Array.toList_extract, bytesOf, List.extract_eq_take_drop,
    List.take_of_length_le]
  rw [List.length_drop, Array.length_toList]
  exact Nat.le_refl _

/-- A stream in one direction. -/
structure Pipe where
  /-- What was ever read. -/
  read : List UInt8 := []
  /-- What was written and has not been read. -/
  inFlight : List UInt8 := []

namespace Pipe

/-- What was ever written. -/
def written (p : Pipe) : List UInt8 := p.read ++ p.inFlight

/-- The pipe when bytes have been written to it. -/
def write (p : Pipe) (bytes : List UInt8) : Pipe := { p with inFlight := p.inFlight ++ bytes }

/-- Bytes arrive, and others stay under way. -/
structure Brings (p : Pipe) (bytes : List UInt8) (p' : Pipe) : Prop where
  read : p'.read = p.read ++ bytes
  inFlight : p.inFlight = bytes ++ p'.inFlight

variable {p p' : Pipe} {bytes : List UInt8}

theorem read_prefix_written (p : Pipe) : p.read <+: p.written := List.prefix_append _ _

@[simp]
theorem read_write (p : Pipe) (bytes : List UInt8) : (p.write bytes).read = p.read := rfl

@[simp]
theorem written_write (p : Pipe) (bytes : List UInt8) :
    (p.write bytes).written = p.written ++ bytes := by
  rw [written, written, read_write, List.append_assoc]
  rfl

/-- An arrival writes nothing. -/
theorem Brings.written (h : p.Brings bytes p') : p'.written = p.written := by
  rw [Pipe.written, Pipe.written, h.read, h.inFlight, List.append_assoc]

theorem length_written (p : Pipe) : p.written.length = p.read.length + p.inFlight.length :=
  List.length_append

/-- What is written and was not read is under way. -/
theorem inFlight_eq_nil_iff : p.inFlight = [] ↔ p.read.length = p.written.length := by
  rw [length_written, ← List.length_eq_zero_iff]
  omega

/-- What a stream answers to a party that writes to the first pipe and reads from the second. It
takes as much as it likes of what is written and brings as much as it likes of what is under way.
It may also fail, be late or say that it is closed at any time, and then nothing is lost. -/
inductive Conveys : Pipe → Pipe → (w : Wire) → w.Answer → Pipe → Pipe → Prop where
  | clock {out inp : Pipe} (now : Nat) : Conveys out inp .clock now out inp
  | takes {out inp : Pipe} {data : ByteArray} {deadline count : Nat} (within : count ≤ data.size) :
      Conveys out inp (.write data deadline) (Timed.ready count)
        (out.write ((bytesOf data).take count)) inp
  | takesNothing {out inp : Pipe} {data : ByteArray} {deadline : Nat} (answer : Timed Nat)
      (vain : ∀ count, answer ≠ .ready count) :
      Conveys out inp (.write data deadline) answer out inp
  | brings {out inp inp' : Pipe} {size deadline : Nat} {data : ByteArray}
      (within : data.size ≤ size) (brings : inp.Brings (bytesOf data) inp') :
      Conveys out inp (.read size deadline) (Timed.ready data) out inp'
  | bringsNothing {out inp : Pipe} {size deadline : Nat} (answer : Timed ByteArray)
      (vain : ∀ data, answer ≠ .ready data) :
      Conveys out inp (.read size deadline) answer out inp
  | send {out inp : Pipe} {data : ByteArray} {peer : Address} (answer : Except String Nat) :
      Conveys out inp (.send data peer) answer out inp
  | receive {out inp : Pipe} {size deadline : Nat} (answer : Timed (ByteArray × Address)) :
      Conveys out inp (.receive size deadline) answer out inp

variable {out inp out' inp' : Pipe} {w : Wire}

/-- A party reads nothing of what it writes itself. -/
theorem Conveys.read_out {answer : w.Answer} (h : Conveys out inp w answer out' inp') :
    out'.read = out.read := by
  cases h <;> rfl

/-- A party writes nothing to what it reads from. -/
theorem Conveys.written_inp {answer : w.Answer} (h : Conveys out inp w answer out' inp') :
    inp'.written = inp.written := by
  cases h with
  | brings within brings => exact brings.written
  | _ => rfl

theorem conveys_clock {now : Nat} (h : Conveys out inp .clock now out' inp') :
    out' = out ∧ inp' = inp := by
  cases h
  exact ⟨rfl, rfl⟩

theorem conveys_write {data : ByteArray} {deadline : Nat} {answer : Timed Nat}
    (h : Conveys out inp (.write data deadline) answer out' inp') :
    inp' = inp ∧ ((∃ count, answer = .ready count ∧ count ≤ data.size ∧
        out' = out.write ((bytesOf data).take count)) ∨
      (∀ count, answer ≠ .ready count) ∧ out' = out) := by
  cases h with
  | takes within => exact ⟨rfl, .inl ⟨_, rfl, within, rfl⟩⟩
  | takesNothing _ vain => exact ⟨rfl, .inr ⟨vain, rfl⟩⟩

theorem conveys_read {size deadline : Nat} {answer : Timed ByteArray}
    (h : Conveys out inp (.read size deadline) answer out' inp') :
    out' = out ∧ ((∃ data, answer = .ready data ∧ data.size ≤ size ∧
        inp.Brings (bytesOf data) inp') ∨
      (∀ data, answer ≠ .ready data) ∧ inp' = inp) := by
  cases h with
  | brings within brings => exact ⟨rfl, .inl ⟨_, rfl, within, brings⟩⟩
  | bringsNothing _ vain => exact ⟨rfl, .inr ⟨vain, rfl⟩⟩

end Pipe

end LoopGauge.Engine
