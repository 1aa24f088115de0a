import LoopGauge.Proofs.Plan
import LoopGauge.Proofs.Report.Document

/-!
# The budget that a report states

A report states its budget in whole milliseconds, and in a word. The longest spans have more
milliseconds than fit a word; of those the report keeps the low part, and what it states is another,
shorter budget. Settings count milliseconds in a word from the start, so their reports state the
budget as it was chosen.

## Main definitions

* `StatesBudget`: the budget that a reader finds in a text.

## Main statements

* `budget_stated`: which budget a report states, and when it is the one of the run.
-/

namespace LoopGauge.Report

open Json

/-- A text is read as one object, and says a whole number of milliseconds as its budget. -/
def StatesBudget (text : String) (ms : Nat) : Prop :=
  ∃ entries, Document.read text = ⟨.object entries .closed, false⟩ ∧
    ∃ entry ∈ entries, entry.1.value = .ok "budget_ms" ∧ Says entry.2 (.whole ms)

variable {moment : Time.Moment} {p : Plan} {b : BenchResult} {s : RunSummary} {slice : Span}
  {ms : Nat}

theorem statesBudget_iff :
    StatesBudget (documentText moment p b s) ms ↔ ms = p.budget.millisWord.toNat := by
  obtain ⟨t, hread, hsays⟩ := exists_says (denotes_pretty 0 _) (fits_document moment p b s)
  obtain ⟨entries, rfl, hentries⟩ := says_object_iff.1 hsays
  have hsaid := @says_whole_iff _ _ "budget_ms" _ ms hentries (by simp) rfl
  rw [StatesBudget, documentText, Value.prettyText, hread, ← Int.natCast_inj, ← hsaid]
  constructor
  · rintro ⟨_, ⟨⟩, hentry⟩
    exact hentry
  · exact fun hentry => ⟨entries, rfl, hentry⟩

/-- The share of a sub-test is within the stated budget, up to a millisecond, exactly if that is
the budget of the run: otherwise at least `2 ^ 64` milliseconds have been left out. -/
theorem share_le_iff (h : p.slice? = some slice) :
    p.enabled.length * slice.nanos ≤ (p.budget.millisWord.toNat + 1) * 1000000 ↔
      p.budget.nanos < 2 ^ 64 * 1000000 := by
  obtain ⟨hle, hlt⟩ := Plan.nanos_slice h
  have hcount := p.length_enabled_le
  rw [Nat.mul_succ] at hlt
  rw [Span.toNat_millisWord]
  omega

/-- **The budget that a report states**. A report states one budget, in milliseconds: the low word
of the whole milliseconds in the budget of the plan. It states all of them exactly if there are
fewer than `2 ^ 64`, and exactly then the share of each sub-test is no longer than an equal part of
what is stated and one millisecond more. Settings always come to a budget that is stated as it was
chosen. -/
theorem budget_stated (moment : Time.Moment) (p : Plan) (b : BenchResult) (s : RunSummary) :
    (∀ ms, StatesBudget (documentText moment p b s) ms ↔
      ms = (p.budget.seconds * 1000 + p.budget.subsecond / 1000000) % 2 ^ 64) ∧
    (StatesBudget (documentText moment p b s) (p.budget.nanos / 1000000) ↔
      p.budget.nanos < 2 ^ 64 * 1000000) ∧
    (∀ slice ms, p.slice? = some slice → StatesBudget (documentText moment p b s) ms →
      (p.enabled.length * slice.nanos ≤ (ms + 1) * 1000000 ↔
        p.budget.nanos < 2 ^ 64 * 1000000)) ∧
    ∀ c : Settings, (Plan.ofSettings c).budget.nanos < 2 ^ 64 * 1000000 ∧
      ∀ ms, StatesBudget (documentText moment (.ofSettings c) b s) ms ↔ ms = c.budgetMs.toNat := by
  refine ⟨fun ms => ?_, ?_, fun slice ms hslice hms => ?_,
    fun c => ⟨Span.nanos_ofMillis_lt _, fun ms => ?_⟩⟩
  · rw [statesBudget_iff, Span.toNat_millisWord, Span.millis_eq]
  · rw [statesBudget_iff, eq_comm, Span.toNat_millisWord_eq_iff]
  · obtain rfl := statesBudget_iff.1 hms
    exact share_le_iff hslice
  · rw [statesBudget_iff, Plan.ofSettings, Settings.budget, Span.toNat_millisWord_ofMillis]

/-- A budget of a millisecond and a half and a little more, shared by two. -/
theorem budget_stated_two :
    ∃ p slice, p = Plan.withOnly ⟨1500999, by decide⟩ [.tcpLatency, .udpThroughput] ∧
      p.slice? = some slice ∧ slice.nanos = 750499 ∧
      StatesBudget (documentText default p {} {}) 1 ∧ p.enabled.length = 2 ∧
      p.enabled.length * slice.nanos ≤ (1 + 1) * 1000000 := by
  let p := Plan.withOnly ⟨1500999, by decide⟩ [.tcpLatency, .udpThroughput]
  obtain ⟨hstates, -, hshare, -⟩ := budget_stated default p {} {}
  have hone : StatesBudget (documentText default p {} {}) 1 := (hstates 1).2 (by decide)
  have hslice : p.slice? = some (p.budget.divide 2) := rfl
  exact ⟨p, _, rfl, hslice, by decide, hone, by decide, (hshare _ 1 hslice hone).2 (by decide)⟩

/-- The longest span has a thousand times as many milliseconds as a word holds, less one, and its
report states about as many as a word holds. -/
theorem longest_budget_misstated :
    ∃ p, p = Plan.withOnly ⟨18446744073709551616 * 1000000000 - 1, by decide⟩ [.udpLatency] ∧
      p.budget.nanos / 1000000 = 18446744073709551615999 ∧
      StatesBudget (documentText default p {} {}) 18446744073709551615 ∧
      ¬StatesBudget (documentText default p {} {}) 18446744073709551615999 ∧
      p.slice? = some p.budget ∧
      ¬p.enabled.length * p.budget.nanos ≤ (18446744073709551615 + 1) * 1000000 := by
  refine ⟨_, rfl, by decide, statesBudget_iff.2 (by decide), ?_, rfl, by decide⟩
  rw [statesBudget_iff]
  decide

end LoopGauge.Report
