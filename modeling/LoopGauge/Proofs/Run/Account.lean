import LoopGauge.Machine.Offline
import LoopGauge.Proofs.Plan
import LoopGauge.Proofs.Report.Verdict
import LoopGauge.Proofs.Run.Course
import LoopGauge.Proofs.Run.Tally

/-!
# The account of a run

A run loses and invents no report: what its result holds is what the enabled sub-tests have handed
in, and its summary counts the successes among them. Verdict and exit code agree with that count.

## Main definitions

* `Plan.Accounts`: result and summary of a run account for each other.

## Main statements

* `Plan.Conducted.accounts`: they do after every run.
* `Plan.Conducted.results?_eq`: no build stops at the report of a run.
* `Plan.run_accounts`: what a run yields, from its course to the last line of its report.
-/

namespace LoopGauge.Plan

open Engine Report
open Report.Formatter (Verdict verdict)

/-- Result and summary of a run account for each other. -/
structure Accounts (p : Plan) (b : BenchResult) (s : RunSummary) : Prop where
  /-- The sub-tests that ran are the enabled ones in the order of execution. -/
  enabled : s.enabled = SubTest.all.filter p.isEnabled
  slice : s.slice = p.slice?.getD .zero
  /-- A sub-test that did not run has no result. -/
  absent : ∀ t, ¬p.isEnabled t → b.get t = BenchResult.get {} t
  successful : s.successful.toNat = s.enabled.countP fun t => (b.get t).success

section Course

variable {W : Type} {answers : Answers W Engine.Request.Answer} {w w' : W} {p : Plan}
  {b : BenchResult} {s : RunSummary}

theorem Conducted.accounts (h : p.Conducted answers w b s w') : p.Accounts b s := by
  cases h with
  | idle unshared start finish =>
    have hnone := slice?_eq_none_iff.1 unshared
    exact ⟨rfl, by rw [unshared]; rfl, fun _ _ => rfl, by rw [hnone]; rfl⟩
  | busy shared start planned opened measured others closed finish =>
    have habsent : ∀ t, ¬p.isEnabled t → b.get t = BenchResult.get {} t :=
      fun t ht => others t fun hmem => ht (mem_enabled.1 hmem)
    have hcount : b.successfulCount = p.enabled.countP fun t => (b.get t).success := by
      refine BenchResult.successfulCount_eq fun t ht => ?_
      by_cases henabled : p.isEnabled t
      · exact henabled
      · rw [habsent t henabled, BenchResult.success_get_default] at ht
        cases ht
    refine ⟨rfl, by rw [shared]; rfl, habsent, ?_⟩
    have hbound : b.successfulCount ≤ SubTest.all.length := List.countP_le_length
    have hword : b.successfulCount < UInt64.size := Nat.lt_of_le_of_lt hbound (by decide)
    rw [summary, UInt64.toNat_ofNat_of_lt' hword, hcount]

/-- The figures of a probe can be written by any build. -/
theorem counts_of_measure {probe : Probe} {budget : Span} {r : LoopGauge.Report}
    (h : (probe.measure budget).Yields answers w r w') : r.counts := by
  cases probe with
  | latency probe =>
    obtain ⟨result, hresult, rfl⟩ := Dialogue.yields_map.1 h
    exact LatencyProbe.isSome_attempted?_of_measure hresult
  | throughput probe =>
    obtain ⟨result, -, rfl⟩ := Dialogue.yields_map.1 h
    rfl

theorem counts_get_default (t : SubTest) : (BenchResult.get {} t).counts := by
  cases t <;> rfl

theorem Conducted.counts (h : p.Conducted answers w b s w') (t : SubTest) : (b.get t).counts := by
  cases h with
  | idle unshared start finish => exact counts_get_default t
  | busy shared start planned opened measured others closed finish =>
    by_cases ht : t ∈ p.enabled
    · have hcounts := measured.forall_mem (P := fun _ r => r.counts)
        fun _ _ _ _ hmeasure => counts_of_measure hmeasure
      exact hcounts t _ (List.mem_map.2 ⟨t, ht, rfl⟩)
    · rw [others t ht]
      exact counts_get_default t

/-- **No build stops at the report of a run**: one that checks its sums writes the same as one that
does not, whatever the probes have measured. -/
theorem Conducted.results?_eq (h : p.Conducted answers w b s w') (f : Formatter) :
    f.results? b s = some (f.results b s) := by
  have hrows : latencyRowsCount b s.enabled := by
    rw [latencyRowsCount, List.all_eq_true]
    intro t _
    rw [h.counts t, Bool.or_true]
  rw [Formatter.results?, hrows, Bool.not_true, Bool.and_false, if_neg nofun]

end Course

namespace Accounts

variable {p : Plan} {b : BenchResult} {s : RunSummary}

/-- Nothing is cut off in the number of failures. -/
theorem failed_add_successful (h : p.Accounts b s) :
    s.failed + s.successful.toNat = s.enabled.length := by
  have hle : s.successful.toNat ≤ s.enabled.length := by
    rw [h.successful]
    exact List.countP_le_length
  rw [RunSummary.failed]
  omega

theorem eq_default (h : p.Accounts b s) (hnone : s.enabled = []) : b = {} := by
  refine BenchResult.ext_get fun t => h.absent t fun ht => ?_
  have hmem : t ∈ s.enabled := by
    rw [h.enabled, List.mem_filter]
    exact ⟨t.mem_all, ht⟩
  rw [hnone] at hmem
  cases hmem

theorem anySuccess_iff (h : p.Accounts b s) : b.anySuccess ↔ 0 < s.successful.toNat := by
  rw [BenchResult.anySuccess_iff, h.successful, List.countP_pos_iff]
  constructor
  · rintro ⟨t, ht⟩
    refine ⟨t, ?_, ht⟩
    by_cases henabled : p.isEnabled t
    · rw [h.enabled, List.mem_filter]
      exact ⟨t.mem_all, henabled⟩
    · rw [h.absent t henabled, BenchResult.success_get_default] at ht
      cases ht
  · rintro ⟨t, -, ht⟩
    exact ⟨t, ht⟩

theorem allSuccessOf_iff (h : p.Accounts b s) :
    b.allSuccessOf s.enabled ↔ s.failed = 0 ∧ 0 < s.enabled.length := by
  have hcount := h.failed_add_successful
  have hall : (∀ t ∈ s.enabled, (b.get t).success) ↔ s.failed = 0 := by
    rw [← List.countP_eq_length, ← h.successful]
    omega
  rw [← hall, BenchResult.allSuccessOf, Bool.and_eq_true, List.all_eq_true, and_comm,
    List.length_pos_iff]
  simp only [BenchResult.successOf_eq, Bool.not_eq_true', List.isEmpty_eq_false_iff]

/-- The exit code of a run without success. -/
theorem exitCode_eq_six_iff (h : p.Accounts b s) :
    (Outcome.completed b s).exitCode = 6 ↔ s.successful.toNat = 0 := by
  have hany := h.anySuccess_iff
  rw [Outcome.exitCode, Outcome.failure?]
  by_cases hsuccess : b.anySuccess
  · rw [if_pos hsuccess]
    have hpos := hany.1 hsuccess
    simp only [Option.map_none, Option.getD_none]
    omega
  · rw [if_neg hsuccess]
    have hzero := mt hany.2 hsuccess
    simp only [Option.map_some, Option.getD_some, Fault.exitCode, FaultKind.exitCode, true_iff]
    omega

/-- The verdict is told by the numbers. -/
theorem verdict_eq (h : p.Accounts b s) :
    verdict b s =
      if s.enabled.length = 0 then .nothingEnabled
      else if s.failed = 0 then .allSucceeded
      else if s.successful.toNat = 0 then .allFailed
      else .someFailed s.failed s.enabled.length := by
  have hall := h.allSuccessOf_iff
  have hany := h.anySuccess_iff
  rw [verdict]
  by_cases hnone : s.enabled.length = 0
  · rw [if_pos hnone, if_pos (List.isEmpty_iff_length_eq_zero.2 hnone)]
  · rw [if_neg hnone, if_neg fun hempty => hnone (List.isEmpty_iff_length_eq_zero.1 hempty)]
    by_cases hfailed : s.failed = 0
    · rw [if_pos hfailed, if_pos (hall.2 ⟨hfailed, by omega⟩)]
    · rw [if_neg hfailed, if_neg fun hsuccess => hfailed (hall.1 hsuccess).1]
      by_cases hzero : s.successful.toNat = 0
      · rw [if_pos hzero, if_neg (mt hany.1 (by omega))]
      · rw [if_neg hzero, if_pos (hany.2 (by omega))]

theorem verdict_eq_someFailed_iff (h : p.Accounts b s) {failed total : Nat} :
    .someFailed failed total = verdict b s ↔
      failed = s.failed ∧ total = s.enabled.length ∧ 0 < failed ∧ failed < total := by
  have hcount := h.failed_add_successful
  rw [h.verdict_eq]
  constructor
  · intro hverdict
    split at hverdict
    · cases hverdict
    · split at hverdict
      · cases hverdict
      · split at hverdict
        · cases hverdict
        · obtain ⟨rfl, rfl⟩ := Verdict.someFailed.inj hverdict
          omega
  · rintro ⟨rfl, rfl, hpos, hlt⟩
    rw [if_neg (by omega), if_neg (by omega), if_neg (by omega)]

theorem verdict_eq_allSucceeded_iff (h : p.Accounts b s) :
    .allSucceeded = verdict b s ↔ s.failed = 0 ∧ 0 < s.enabled.length := by
  rw [h.verdict_eq]
  constructor
  · intro hverdict
    split at hverdict
    · cases hverdict
    next hnone =>
      split at hverdict
      next hfailed => exact ⟨hfailed, by omega⟩
      next => split at hverdict <;> cases hverdict
  · rintro ⟨hfailed, hpos⟩
    rw [if_neg (by omega), if_pos hfailed]

/-- Both verdicts without a success come with the exit code that says so. -/
theorem verdict_unsuccessful_iff (h : p.Accounts b s) :
    .nothingEnabled = verdict b s ∨ .allFailed = verdict b s ↔
      (Outcome.completed b s).exitCode = 6 := by
  have hcount := h.failed_add_successful
  rw [h.exitCode_eq_six_iff, h.verdict_eq]
  by_cases hnone : s.enabled.length = 0
  · rw [if_pos hnone]
    have hzero : s.successful.toNat = 0 := by omega
    exact ⟨fun _ => hzero, fun _ => .inl rfl⟩
  · rw [if_neg hnone]
    constructor
    · rintro (hverdict | hverdict)
      · split at hverdict
        · cases hverdict
        · split at hverdict <;> cases hverdict
      · split at hverdict
        · cases hverdict
        · split at hverdict
          · assumption
          · cases hverdict
    · intro hzero
      rw [if_neg (by omega), if_pos hzero]
      exact .inr rfl

end Accounts

/-- What becomes of a run. It comes to an end, and however its probes fare, the enabled sub-tests
are measured one after the other, every report is found in the result, the summary counts the
successes, and the last line of the report says what the exit code says. -/
theorem run_accounts {W : Type} (answers : Answers W Engine.Request.Answer) (w : W) (p : Plan) :
    ((∀ w q, ∃ answer w', answers w q answer w') →
      ∃ b s w', p.run.Yields answers w (b, s) w') ∧
    ∀ b s w', p.run.Yields answers w (b, s) w' →
      p.Conducted answers w b s w' ∧ p.Accounts b s ∧
        s.failed + s.successful.toNat = s.enabled.length ∧ (s.enabled = [] → b = {}) ∧
        ∀ ink enableColour verbose,
          let f := Formatter.choose ink enableColour verbose
          (∀ failed total, f.EndsIn b s (.someFailed failed total) ↔
            failed = s.failed ∧ total = s.enabled.length ∧ 0 < failed ∧ failed < total) ∧
          (f.EndsIn b s .allSucceeded ↔ s.failed = 0 ∧ 0 < s.enabled.length) ∧
          (f.EndsIn b s .nothingEnabled ∨ f.EndsIn b s .allFailed ↔
            (Outcome.completed b s).exitCode = 6) := by
  constructor
  · intro hanswers
    obtain ⟨⟨b, s⟩, w', h⟩ := Dialogue.exists_yields hanswers p.run w
    exact ⟨b, s, w', h⟩
  · intro b s w' h
    have hconducted := yields_run.1 h
    have haccounts := hconducted.accounts
    have hcount := haccounts.failed_add_successful
    refine ⟨hconducted, haccounts, hcount, haccounts.eq_default, ?_⟩
    intro ink enableColour verbose
    simp only [Formatter.endsIn_choose_iff]
    exact ⟨fun _ _ => haccounts.verdict_eq_someFailed_iff, haccounts.verdict_eq_allSucceeded_iff,
      haccounts.verdict_unsuccessful_iff⟩

/-- The standard run on a machine whose loopback interface is down. -/
theorem run_accounts_offline :
    ∃ b s w', standard.run.Yields (.of Machine.Offline.answerRun) {} (b, s) w' ∧
      standard.Accounts b s ∧ s.failed = 4 ∧
      ¬(Formatter.choose .bare false false).EndsIn b s .allSucceeded := by
  have h := Dialogue.yields_of Machine.Offline.answerRun standard.run {}
  have hfailed : ((standard.run.run Machine.Offline.answerRun).run {}).1.2.failed = 4 := by
    decide +kernel
  generalize (standard.run.run Machine.Offline.answerRun).run {} = outcome at h hfailed
  obtain ⟨⟨b, s⟩, w'⟩ := outcome
  obtain ⟨-, haccounts, -, -, hreport⟩ := (run_accounts _ _ standard).2 b s w' h
  obtain ⟨-, hsucceeded, -⟩ := hreport .bare false false
  refine ⟨b, s, w', h, haccounts, hfailed, fun hends => ?_⟩
  have hzero : s.failed = 0 := (hsucceeded.1 hends).1
  exact absurd (hzero.symm.trans hfailed) (by decide)

end LoopGauge.Plan
