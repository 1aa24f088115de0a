import LoopGauge.Proofs.Text.Lines
import LoopGauge.Text.Raw
import Mathlib.Algebra.Group.Nat.Defs

/-!
# Decoding bytes piece by piece

No sequence of UTF-8 goes on past an ASCII byte, so bytes are well-formed if the parts between such
bytes are. In particular a content is well-formed if each of its lines is.

## Main statements

* `Utf8.scan_append_cons`: decoding before and after an ASCII byte.
* `Utf8.decode?_isSome_of_lines`: bytes with readable lines are readable.
* `Utf8.nul_mem_of_mem_scan`: only a zero byte is decoded as the NUL character.
-/

namespace LoopGauge.Text

namespace Utf8

variable {b c : UInt8} {xs ys : List UInt8}

theorem scan_cons_of_lt (hb : b < 0x80) :
    scan (b :: xs) = some (Char.ofNat b.toNat) :: scan xs := by
  rw [scan, if_pos hb]

theorem length_continuation_le (count : Nat) (low high : UInt8) (xs : List UInt8) :
    (continuation count low high xs).length ≤ xs.length := by
  induction xs generalizing count low high with
  | nil => cases count <;> simp [continuation]
  | cons x xs ih =>
    cases count with
    | zero => simp [continuation]
    | succ count =>
      rw [continuation]
      split
      · have := ih count 0x80 0xBF
        simp only [List.length_cons]
        omega
      · simp

/-- A sequence does not go on past an ASCII byte. -/
theorem continuation_append_cons {low : UInt8} (hlow : 0x80 ≤ low) (hc : c < 0x80) (count : Nat)
    (high : UInt8) :
    continuation count low high (xs ++ c :: ys) = continuation count low high xs := by
  induction xs generalizing count low high with
  | nil =>
    cases count with
    | zero => rfl
    | succ count =>
      have hbelow : ¬low ≤ c := by
        intro h
        exact absurd (UInt8.lt_of_lt_of_le hc (UInt8.le_trans hlow h)) (UInt8.lt_irrefl c)
      simp [continuation, hbelow]
  | cons x xs ih =>
    cases count with
    | zero => rfl
    | succ count =>
      rw [List.cons_append, continuation, continuation, ih (UInt8.le_refl 0x80)]

theorem Lead.low_of_of? {lead : Lead} (h : Lead.of? b = some lead) : 0x80 ≤ lead.low := by
  simp only [Lead.of?] at h
  repeat' split at h
  all_goals cases h <;> exact UInt8.le_iff_toNat_le.2 (by simp)

theorem scan_append_cons (hc : c < 0x80) : scan (xs ++ c :: ys) = scan xs ++ scan (c :: ys) := by
  -- By induction on the length, since a sequence takes several bytes at once.
  induction h : xs.length using Nat.strongRecOn generalizing xs with
  | _ n ih =>
    subst h
    cases xs with
    | nil => simp [scan]
    | cons x xs =>
      by_cases hx : x < 0x80
      · rw [List.cons_append, scan_cons_of_lt hx, scan_cons_of_lt hx,
          ih xs.length (by simp) rfl, List.cons_append]
      · rw [List.cons_append, scan, scan, if_neg hx, if_neg hx]
        cases hlead : Lead.of? x with
        | none => simp only [ih xs.length (by simp) rfl, List.cons_append]
        | some lead =>
          have hlength := length_continuation_le lead.count lead.low lead.high xs
          have hshorter : (xs.drop (continuation lead.count lead.low lead.high xs).length).length <
              (x :: xs).length := by
            rw [List.length_drop, List.length_cons]
            omega
          simp only [continuation_append_cons (Lead.low_of_of? hlead) hc]
          rw [List.drop_append_of_le_length hlength, ih _ hshorter rfl, List.cons_append]

private theorem mapM_id_eq_some_iff {os : List (Option Char)} {cs : List Char} :
    os.mapM id = some cs ↔ os = cs.map some := by
  induction os generalizing cs with
  | nil => cases cs <;> simp
  | cons o os ih =>
    cases o with
    | none => cases cs <;> simp
    | some d =>
      have hmap : (some d :: os).mapM id = (os.mapM id).map (d :: ·) := by
        cases h : os.mapM id <;> simp [h]
      rw [hmap, Option.map_eq_some_iff]
      cases cs with
      | nil => simp
      | cons c cs => simp [ih, and_comm]

theorem decode?_eq_some_iff {s : String} : decode? xs = some s ↔ scan xs = s.toList.map some := by
  rw [decode?, Option.map_eq_some_iff]
  constructor
  · rintro ⟨cs, hcs, rfl⟩
    rw [String.toList_ofList]
    exact mapM_id_eq_some_iff.1 hcs
  · intro h
    exact ⟨s.toList, mapM_id_eq_some_iff.2 h, String.ofList_toList⟩

/-- Bytes are readable if no part of them is malformed. -/
theorem decode?_isSome_iff : (decode? xs).isSome ↔ none ∉ scan xs := by
  rw [Option.isSome_iff_exists]
  constructor
  · rintro ⟨s, hs⟩
    rw [decode?_eq_some_iff.1 hs]
    simp
  · intro hnone
    have hscan : scan xs = ((scan xs).filterMap id).map some := by
      generalize scan xs = os at hnone
      induction os with
      | nil => rfl
      | cons o os ih =>
        rw [List.mem_cons, not_or] at hnone
        obtain ⟨hhead, hrest⟩ := hnone
        cases o with
        | none => exact absurd rfl hhead
        | some c => rw [List.filterMap_cons, id_eq, List.map_cons, ← ih hrest]
    exact ⟨_, decode?_eq_some_iff.2 (hscan.trans (by rw [String.toList_ofList]))⟩

/-- A line end between readable parts leaves the whole readable. -/
theorem none_not_mem_scan_append_cons (hc : c < 0x80) (hxs : none ∉ scan xs)
    (hys : none ∉ scan ys) : none ∉ scan (xs ++ c :: ys) := by
  rw [scan_append_cons hc, scan_cons_of_lt hc, List.mem_append, List.mem_cons]
  rintro (h | h | h)
  · exact hxs h
  · cases h
  · exact hys h

theorem none_not_mem_scan_intercalate (hc : c < 0x80) {ps : List (List UInt8)}
    (h : ∀ p ∈ ps, none ∉ scan p) : none ∉ scan ([c].intercalate ps) := by
  induction ps with
  | nil => simp [scan]
  | cons p ps ih =>
    have hp := h p List.mem_cons_self
    have hps : ∀ q ∈ ps, none ∉ scan q := fun q hq => h q (List.mem_cons_of_mem p hq)
    cases ps with
    | nil => simpa using hp
    | cons q qs =>
      rw [List.intercalate_cons_cons, List.append_assoc, List.singleton_append]
      exact none_not_mem_scan_append_cons hc hp (ih hps)

/-- Bytes are readable if all their lines are. -/
theorem decode?_isSome_of_lines
    (h : ∀ l ∈ linesBy (· == 10) (· == 13) xs, (decode? l).isSome) : (decode? xs).isSome := by
  rw [decode?_isSome_iff, ← intercalate_piecesBy 10 xs]
  refine none_not_mem_scan_intercalate (by decide) fun p hp => ?_
  by_cases hne : p = []
  · simp [hne, scan]
  · obtain hline | hline := mem_linesBy_of_mem_piecesBy (· == 13) hp hne
    · exact decode?_isSome_iff.1 (h p hline)
    · have hstart := decode?_isSome_iff.1 (h _ hline)
      obtain heq | ⟨x, hx, heq⟩ := dropLastIf_eq (· == 13) p
      · exact heq ▸ hstart
      · obtain rfl : x = 13 := eq_of_beq hx
        rw [heq]
        exact none_not_mem_scan_append_cons (by decide) hstart (by simp [scan])

theorem foldl_sixes_lower (n : Nat) (ts : List UInt8) :
    n * 64 ^ ts.length ≤ ts.foldl (fun n t => n * 64 + t.toNat % 64) n := by
  induction ts generalizing n with
  | nil => simp
  | cons t ts ih =>
    have h := ih (n * 64 + t.toNat % 64)
    rw [List.length_cons, List.foldl_cons, Nat.pow_succ, Nat.mul_comm (64 ^ ts.length),
      ← Nat.mul_assoc]
    exact (Nat.mul_le_mul_right _ (Nat.le_add_right _ _)).trans h

theorem foldl_sixes_upper (n : Nat) (ts : List UInt8) :
    ts.foldl (fun n t => n * 64 + t.toNat % 64) n < (n + 1) * 64 ^ ts.length := by
  induction ts generalizing n with
  | nil => simp
  | cons t ts ih =>
    have h := ih (n * 64 + t.toNat % 64)
    have hstep : n * 64 + t.toNat % 64 + 1 ≤ (n + 1) * 64 := by omega
    rw [List.length_cons, List.foldl_cons, Nat.pow_succ, Nat.mul_comm (64 ^ ts.length),
      ← Nat.mul_assoc]
    exact h.trans_le (Nat.mul_le_mul_right _ hstep)

/-- With its first continuation a sequence is settled to be short of the surrogates, or past them
and short of the end of all characters. -/
theorem Lead.scalar_of_of? {lead : Lead} (h : Lead.of? b = some lead) :
    ∃ more, lead.count = more + 1 ∧ ∀ t : UInt8, lead.low ≤ t → t ≤ lead.high →
      let n := lead.bits * 64 + t.toNat % 64
      0 < n ∧ ((n + 1) * 64 ^ more ≤ 0xD800 ∨
        0xE000 ≤ n * 64 ^ more ∧ (n + 1) * 64 ^ more ≤ 0x110000) := by
  simp only [Lead.of?, Bool.and_eq_true, decide_eq_true_eq, beq_iff_eq] at h
  repeat' split at h
  all_goals cases h
  all_goals
    refine ⟨_, rfl, fun t hlow hhigh => ?_⟩
    rw [UInt8.le_iff_toNat_le] at hlow hhigh
    simp at hlow hhigh
    constructor <;> dsimp only <;> omega

theorem ofNat_ne_nul {n : Nat} (hpos : 0 < n) (hn : n < 0xD800 ∨ 0xDFFF < n ∧ n < 0x110000) :
    Char.ofNat n ≠ '\x00' := by
  intro h
  have htoNat : (Char.ofNat n).toNat = n := by
    rw [Char.ofNat, dif_pos hn]
    rfl
  rw [h] at htoNat
  exact absurd htoNat (by simp; omega)

theorem continuation_eq_cons {count : Nat} {low high : UInt8}
    (h : (continuation (count + 1) low high xs).length = count + 1) :
    ∃ t ts, continuation (count + 1) low high xs = t :: ts ∧ low ≤ t ∧ t ≤ high ∧
      ts.length = count := by
  cases xs with
  | nil => simp [continuation] at h
  | cons x xs =>
    rw [continuation] at h ⊢
    split at h
    next hx =>
      rw [Bool.and_eq_true, decide_eq_true_eq, decide_eq_true_eq] at hx
      rw [if_pos (by simpa using hx)]
      exact ⟨x, _, rfl, hx.1, hx.2, by simpa using h⟩
    next => simp at h

/-- A sequence of more than one byte is not decoded as the character NUL. -/
theorem sequence_ne_nul {lead : Lead} (hlead : Lead.of? b = some lead) {taken : List UInt8}
    (htaken : continuation lead.count lead.low lead.high xs = taken)
    (hlength : taken.length = lead.count) :
    Char.ofNat (taken.foldl (fun n t => n * 64 + t.toNat % 64) lead.bits) ≠ '\x00' := by
  obtain ⟨more, hmore, hscalar⟩ := Lead.scalar_of_of? hlead
  subst htaken
  rw [hmore] at hlength ⊢
  obtain ⟨t, ts, heq, hlow, hhigh, rfl⟩ := continuation_eq_cons hlength
  obtain ⟨hpos, hrange⟩ := hscalar t hlow hhigh
  rw [heq, List.foldl_cons]
  -- The bytes that follow cannot leave the range that the first two have settled.
  have hlower := foldl_sixes_lower (lead.bits * 64 + t.toNat % 64) ts
  have hupper := foldl_sixes_upper (lead.bits * 64 + t.toNat % 64) ts
  have hgrowth := Nat.mul_pos hpos (Nat.pow_pos (n := ts.length) (show 0 < 64 by decide))
  exact ofNat_ne_nul (by omega) (by omega)

/-- Only a zero byte is decoded as the character NUL. -/
theorem nul_mem_of_mem_scan (h : some '\x00' ∈ scan xs) : 0 ∈ xs := by
  fun_induction scan xs with
  | case1 => cases h
  | case2 b rest hb ih =>
    obtain heq | h := List.mem_cons.1 h
    · by_cases hzero : b.toNat = 0
      · obtain rfl : b = 0 := UInt8.toNat_inj.1 hzero
        exact List.mem_cons_self
      · have hlt : b.toNat < 0x80 := UInt8.lt_iff_toNat_lt.1 hb
        exact absurd (Option.some.inj heq).symm (ofNat_ne_nul (by omega) (.inl (by omega)))
    · exact List.mem_cons_of_mem b (ih h)
  | case3 b rest hb hlead ih =>
    obtain heq | h := List.mem_cons.1 h
    · cases heq
    · exact List.mem_cons_of_mem b (ih h)
  | case4 b rest hb lead hlead taken char ih =>
    obtain heq | h := List.mem_cons.1 h
    · by_cases hlength : taken.length = lead.count
      · have hchar := Option.some.inj (heq.trans (dif_pos hlength))
        exact absurd hchar.symm (sequence_ne_nul hlead rfl hlength)
      · cases heq.trans (dif_neg hlength)
    · exact List.mem_cons_of_mem b (List.mem_of_mem_drop (ih h))

end Utf8

end LoopGauge.Text
