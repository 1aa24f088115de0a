import LoopGauge.Engine.Ports
import Mathlib.Data.Nat.ModEq

/-!
# The ports of a history of calls

As long as the counter has not come round, the port of a call tells the residue of its number. So
the window is gone through evenly, and a port comes again after a whole window and not before.

## Main statements

* `portOf_eq`: the port of a count, without words.
* `PortCounter.serve_eq`: the ports of a history.
* `PortCounter.serve_recurs`: when two calls get the same port.
-/

namespace LoopGauge.Engine

theorem toNat_portOffset (count : UInt64) : (portOffset count).toNat = count.toNat % 1000 := by
  have hwindow : (UInt64.ofNat Limits.portWindow).toNat = 1000 := rfl
  rw [portOffset, UInt64.toNat_toUInt16, UInt64.toNat_mod, hwindow]
  omega

/-- No port needs more than a word. -/
theorem portOffset_fits (count : UInt64) :
    (UInt16.ofNat Limits.firstPort).toNat + (portOffset count).toNat < UInt16.size := by
  have hfirst : (UInt16.ofNat Limits.firstPort).toNat = 47000 := rfl
  have hsize : UInt16.size = 65536 := rfl
  rw [toNat_portOffset]
  omega

theorem portOf_eq (count : UInt64) : portOf count = 47000 + count.toNat % 1000 := by
  rw [portOf, UInt16.toNat_add, Nat.mod_eq_of_lt (portOffset_fits count), toNat_portOffset]
  rfl

namespace PortCounter

variable {calls : List PortCall}

theorem answer_eq_next (c : PortCounter) (call : PortCall) : c.answer call = c.next := by
  cases call <;> rfl

theorem length_serve (c : PortCounter) : (c.serve calls).length = calls.length := by
  induction calls generalizing c with
  | nil => rfl
  | cons call calls ih => exact congrArg Nat.succ (ih _)

theorem getElem_serve (c : PortCounter) {i : Nat} (hi : i < (c.serve calls).length) :
    (c.serve calls)[i] = portOf (c.count + 1 + UInt64.ofNat i) := by
  induction calls generalizing c i with
  | nil => exact absurd hi (Nat.not_lt_zero i)
  | cons call calls ih =>
    simp only [serve, answer_eq_next, next]
    cases i with
    | zero => simp
    | succ i =>
      have hone : UInt64.ofNat 1 = 1 := rfl
      rw [List.getElem_cons_succ, ih, UInt64.ofNat_add, UInt64.add_comm (UInt64.ofNat i), hone,
        ← UInt64.add_assoc]

/-- The counter starts at zero, and until it comes round it tells how many calls there were. -/
theorem serve_eq (h : calls.length < 2 ^ 64) {i : Nat} (hi : i < (serve {} calls).length) :
    (serve {} calls)[i] = 47000 + (i + 1) % 1000 := by
  have hlt : i + 1 < UInt64.size := by
    rw [length_serve] at hi
    have hsize : UInt64.size = 2 ^ 64 := rfl
    omega
  have hcount : (0 : UInt64) + 1 + UInt64.ofNat i = UInt64.ofNat (i + 1) := by
    rw [UInt64.ofNat_add, UInt64.zero_add, UInt64.add_comm]
    rfl
  rw [getElem_serve, hcount, portOf_eq, UInt64.toNat_ofNat_of_lt' hlt]

theorem getElem_serve_eq_iff (h : calls.length < 2 ^ 64) {i j : Nat}
    (hi : i < (serve {} calls).length) (hj : j < (serve {} calls).length) :
    (serve {} calls)[i] = (serve {} calls)[j] ↔ i ≡ j [MOD 1000] := by
  rw [serve_eq h, serve_eq h, Nat.ModEq]
  omega

theorem nodup_window (h : calls.length < 2 ^ 64) (start : Nat) {k : Nat} (hk : k ≤ 1000) :
    (((serve {} calls).drop start).take k).Nodup := by
  rw [List.Nodup, List.pairwise_iff_getElem]
  intro i j hi hj hij
  rw [List.length_take] at hj
  rw [List.getElem_take, List.getElem_take, List.getElem_drop, List.getElem_drop, Ne,
    getElem_serve_eq_iff h, Nat.ModEq]
  omega

/-- **Ports stay in the window and come again after a whole window only.** Whoever makes the calls,
every port lies in the window and is computed without overflow; calls that are fewer than the window
is long and follow on each other get different ports, and two calls get the same port exactly if a
number of whole windows lies between them. -/
theorem serve_recurs (calls : List PortCall) (h : calls.length < 2 ^ 64) :
    let ports := serve {} calls
    ports.length = calls.length ∧
      (∀ p ∈ ports, 47000 ≤ p ∧ p ≤ 47999) ∧
      (∀ count, (UInt16.ofNat Limits.firstPort).toNat + (portOffset count).toNat < UInt16.size ∧
        (portOffset count).toNat = count.toNat % 1000) ∧
      (∀ start k, k ≤ 1000 → ((ports.drop start).take k).Nodup) ∧
      ∀ i j (hi : i < ports.length) (hj : j < ports.length),
        ports[i] = ports[j] ↔ i ≡ j [MOD 1000] := by
  refine ⟨length_serve _, fun p hp => ?_, fun count => ⟨portOffset_fits count,
    toNat_portOffset count⟩, fun start k => nodup_window h start,
    fun i j hi hj => getElem_serve_eq_iff h hi hj⟩
  obtain ⟨i, hi, rfl⟩ := List.mem_iff_getElem.1 hp
  rw [serve_eq h]
  omega

/-- A call after a whole window of calls by others gets the port of the first call. -/
theorem serve_recurs_after_window :
    (PortCall.direct :: List.replicate 1000 (.allocator 7)).length < 2 ^ 64 ∧
      (serve {} (.direct :: List.replicate 1000 (.allocator 7)))[1000]? =
        (serve {} (.direct :: List.replicate 1000 (.allocator 7)))[0]? := by
  have hlength : (PortCall.direct :: List.replicate 1000 (.allocator 7)).length = 1001 := by
    rw [List.length_cons, List.length_replicate]
  have hlt : (PortCall.direct :: List.replicate 1000 (.allocator 7)).length < 2 ^ 64 := by
    rw [hlength]
    decide
  obtain ⟨hports, -, -, -, hsame⟩ := serve_recurs _ hlt
  have hlast : 1000 < (serve {} (.direct :: List.replicate 1000 (.allocator 7))).length := by
    rw [hports, hlength]
    decide
  refine ⟨hlt, ?_⟩
  rw [List.getElem?_eq_getElem hlast, List.getElem?_eq_getElem (Nat.zero_lt_of_lt hlast),
    (hsame 1000 0 hlast _).2 (by decide)]

end PortCounter

end LoopGauge.Engine
