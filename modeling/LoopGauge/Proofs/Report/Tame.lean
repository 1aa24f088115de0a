import LoopGauge.Proofs.Report.Verdict
import LoopGauge.Proofs.Text.LineEnds

/-!
# The texts in a report

The figures of a report are written with digits, signs and units, and its headers and labels are
words. No escape sequence starts in them and no line ends in them.

## Main definitions

* `Tame`: a text without escape characters and line feeds.

## Main statements

* `tame_fixed`: a number with decimals is tame, whatever the number.
* `tame_latencyRow`, `tame_throughputRow`: the cells of a row are tame, whatever was measured.
-/

namespace LoopGauge

open Number Text

namespace Report

variable {s t : String} {c : Char} {m n : Nat}

/-- Neither escape characters nor line feeds are in the text. -/
def Tame (s : String) : Prop := ∀ c ∈ s.toList, c ≠ '\x1b' ∧ c ≠ '\n'

instance : Decidable (Tame s) := List.decidableBAll (fun c => c ≠ '\x1b' ∧ c ≠ '\n') s.toList

@[simp]
theorem tame_append : Tame (s ++ t) ↔ Tame s ∧ Tame t := by
  simp only [Tame, String.toList_append, List.forall_mem_append]

theorem Tame.escape_not_mem (h : Tame s) : '\x1b' ∉ s.toList := fun hmem => (h _ hmem).1 rfl

theorem Tame.feed_not_mem (h : Tame s) : '\n' ∉ s.toList := fun hmem => (h _ hmem).2 rfl

theorem tame_repeated (n : Nat) (hc : c ≠ '\x1b' ∧ c ≠ '\n') : Tame (repeated n c) := by
  intro d hd
  rw [repeated, String.toList_ofList] at hd
  rwa [List.eq_of_mem_replicate hd]

theorem tame_align (a : Alignment) (n : Nat) (h : Tame s) : Tame (align a n s) := by
  have hgap : Tame (repeated (n - width s) ' ') := tame_repeated _ (by decide)
  cases a with
  | left => exact tame_append.2 ⟨h, hgap⟩
  | right => exact tame_append.2 ⟨hgap, h⟩

theorem tame_join {α : Type} {f : α → String} {xs : List α} (ht : Tame t)
    (h : ∀ x ∈ xs, Tame (f x)) : Tame (join t (xs.map f)) := by
  induction xs with
  | nil => exact nofun
  | cons x xs ih =>
    obtain ⟨hx, hxs⟩ := List.forall_mem_cons.1 h
    cases xs with
    | nil => simpa [join] using hx
    | cons y xs =>
      have htail := ih hxs
      rw [List.map_cons, join] at htail
      rw [List.map_cons, List.map_cons, join, String.intercalate_cons_cons, tame_append,
        tame_append]
      exact ⟨⟨hx, ht⟩, htail⟩

theorem tame_listing (tests : List SubTest) : Tame (SubTest.listing tests) := by
  have hname (t : SubTest) : Tame t.name := by cases t <;> decide
  rw [SubTest.listing]
  split
  · decide
  · exact tame_join (by decide) fun t _ => hname t

theorem tame_trimmedEnd (h : Tame s) : Tame (trimmedEnd s) := by
  intro c hc
  rw [trimmedEnd, String.toList_ofList] at hc
  exact h c (mem_of_mem_trimEnd hc)

theorem tame_ofList {cs : List Char} :
    Tame (String.ofList cs) ↔ ∀ c ∈ cs, c ≠ '\x1b' ∧ c ≠ '\n' := by
  rw [Tame, String.toList_ofList]

theorem ne_of_isDigit (h : c.isDigit) : c ≠ '\x1b' ∧ c ≠ '\n' := by
  constructor
  · rintro rfl
    exact absurd h (by decide)
  · rintro rfl
    exact absurd h (by decide)

theorem mem_pointedDigits (h : c ∈ pointedDigits n m) : c.isDigit ∨ c = '.' := by
  unfold pointedDigits at h
  split at h
  · exact .inl (isDigit_of_mem_digits h)
  · obtain h | h := List.mem_append.1 h
    · exact .inl (isDigit_of_mem_digits h)
    · obtain rfl | h := List.mem_cons.1 h
      · exact .inr rfl
      · exact .inl (isDigit_of_mem_paddedDigits h)

@[simp]
theorem tame_decimal (n : Nat) : Tame (decimal n) :=
  tame_ofList.2 fun _ hc => ne_of_isDigit (isDigit_of_mem_digits hc)

@[simp]
theorem tame_fixed (x : Binary64) (places : Nat) : Tame (x.fixed places) := by
  have hpointed : ∀ c ∈ pointedDigits places (x.scaled places), c ≠ '\x1b' ∧ c ≠ '\n' := by
    intro c hc
    obtain hdigit | rfl := mem_pointedDigits hc
    · exact ne_of_isDigit hdigit
    · decide
  unfold Binary64.fixed
  split
  · decide
  · have hmagnitude : ∀ c ∈ if x.isInfinite then "inf".toList
        else pointedDigits places (x.scaled places), c ≠ '\x1b' ∧ c ≠ '\n' := by
      have hinf : Tame "inf" := by decide
      split
      · exact hinf
      · exact hpointed
    rw [tame_ofList]
    split
    · exact List.forall_mem_cons.2 ⟨by decide, hmagnitude⟩
    · exact hmagnitude

@[simp]
theorem tame_micros (us : Binary64) : Tame (micros us) := by
  have hunit : Tame "µs" := by simp [Tame]
  unfold micros
  split
  · exact tame_append.2 ⟨tame_fixed us 1, hunit⟩
  · exact tame_append.2 ⟨tame_fixed _ 2, by decide⟩

@[simp]
theorem tame_millis (ms : Binary64) : Tame (millis ms) := by
  unfold millis
  split
  · exact tame_append.2 ⟨tame_fixed ms 1, by decide⟩
  · exact tame_append.2 ⟨tame_fixed _ 2, by decide⟩

@[simp]
theorem tame_percentage (p : Binary64) : Tame (percentage p) := by
  unfold percentage
  split
  · decide
  · split
    · decide
    · exact tame_append.2 ⟨tame_fixed p 1, by decide⟩

@[simp]
theorem tame_bytes (n : UInt64) : Tame (bytes n) := by
  simp only [bytes]
  split
  · exact tame_append.2 ⟨tame_fixed _ 2, by decide⟩
  · split
    · exact tame_append.2 ⟨tame_fixed _ 1, by decide⟩
    · split
      · exact tame_append.2 ⟨tame_fixed _ 1, by decide⟩
      · exact tame_append.2 ⟨tame_decimal _, by decide⟩

theorem tame_latencyColumns (verbose : Bool) : ∀ c ∈ latencyColumns verbose, Tame c.header := by
  cases verbose <;> decide

theorem tame_throughputColumns : ∀ c ∈ throughputColumns, Tame c.header := by decide

theorem tame_latencyTexts (verbose : Bool) (r : LatencyResult) :
    ∀ s ∈ latencyTexts verbose r, Tame s := by
  unfold latencyTexts
  refine List.forall_mem_append.2 ⟨by simp, ?_⟩
  split
  · simp
  · exact nofun

theorem tame_throughputTexts (r : ThroughputResult) : ∀ s ∈ throughputTexts r, Tame s := by
  have hseconds : Tame "s" := by decide
  simp [throughputTexts, hseconds]

theorem tame_row {figures : Report → List String} {b : BenchResult} {enabled : List SubTest}
    {t : SubTest} (h : ∀ s ∈ figures (b.get t), Tame s) :
    ∀ s ∈ plainRow figures b enabled t, Tame s := by
  have hlabel : Tame t.label := by cases t <;> decide
  have hstatus (status : RowStatus) : Tame status.name := by cases status <;> decide
  by_cases hok : RowStatus.of b t enabled = .ok
  · rw [plainRow, row_of_ok hok]
    exact List.forall_mem_cons.2 ⟨hlabel, List.forall_mem_cons.2 ⟨hstatus _, h⟩⟩
  · rw [plainRow, row_of_ne_ok hok]
    exact List.forall_mem_cons.2 ⟨hlabel, List.forall_mem_singleton.2 (hstatus _)⟩

theorem tame_plainLatencyRow (verbose : Bool) (b : BenchResult) (enabled : List SubTest)
    (t : SubTest) : ∀ s ∈ plainLatencyRow verbose b enabled t, Tame s := by
  refine tame_row ?_
  cases b.get t with
  | latency r => exact tame_latencyTexts verbose r
  | throughput r => exact nofun

theorem tame_plainThroughputRow (b : BenchResult) (enabled : List SubTest) (t : SubTest) :
    ∀ s ∈ plainThroughputRow b enabled t, Tame s := by
  refine tame_row ?_
  cases b.get t with
  | latency r => exact nofun
  | throughput r => exact tame_throughputTexts r

theorem tame_latencyRow (verbose : Bool) (b : BenchResult) (enabled : List SubTest) (t : SubTest) :
    ∀ cell ∈ latencyRow verbose b enabled t, Tame cell.text := by
  rw [← List.forall_mem_map, map_text_latencyRow]
  exact tame_plainLatencyRow verbose b enabled t

theorem tame_throughputRow (b : BenchResult) (enabled : List SubTest) (t : SubTest) :
    ∀ cell ∈ throughputRow b enabled t, Tame cell.text := by
  rw [← List.forall_mem_map, map_text_throughputRow]
  exact tame_plainThroughputRow b enabled t

end Report

end LoopGauge
