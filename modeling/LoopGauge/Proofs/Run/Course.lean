import LoopGauge.Engine.Run
import LoopGauge.Proofs.Dialogue
import LoopGauge.Proofs.Result.Slots

/-!
# The course of a run

A run reads the clock, measures the enabled sub-tests one after the other, and reads the clock
again. No measurement is left out because of an earlier one, and each hands in a report of the kind
of its sub-test, so every report is found in the result.

## Main definitions

* `Engine.Measured`: sub-tests are measured one after the other.
* `Plan.Conducted`: the course of a run with its result and summary.

## Main statements

* `Plan.yields_run`: a run yields what is conducted.
-/

namespace LoopGauge

variable {W : Type} {answers : Answers W Engine.Request.Answer} {w w' : W}

namespace Engine

/-- Sub-tests are measured one after the other, each with its report. -/
inductive Measured (answers : Answers W Request.Answer) (probe : SubTest → Run Report) :
    List (SubTest × Report) → W → W → Prop where
  | nil (w : W) : Measured answers probe [] w w
  | cons {t : SubTest} {r : Report} {entries : List (SubTest × Report)} {w w₁ w₂ : W}
      (first : (probe t).Yields answers w r w₁) (rest : Measured answers probe entries w₁ w₂) :
      Measured answers probe ((t, r) :: entries) w w₂

variable {probe : SubTest → Run Report} {entries : List (SubTest × Report)}

/-- What holds of all that a probe may report holds of all that is measured. -/
theorem Measured.forall_mem {P : SubTest → Report → Prop}
    (hprobe : ∀ t r (w w' : W), (probe t).Yields answers w r w' → P t r)
    (h : Measured answers probe entries w w') : ∀ t r, (t, r) ∈ entries → P t r := by
  induction h with
  | nil w => simp
  | cons first rest ih =>
    intro t r hmem
    obtain heq | hmem := List.mem_cons.1 hmem
    · obtain ⟨rfl, rfl⟩ := Prod.mk.inj heq
      exact hprobe t r _ _ first
    · exact ih t r hmem

/-- What is measured one after the other is put in. -/
theorem yields_runEach {tests : List SubTest} {b c : BenchResult} :
    (runEach probe tests b).Yields answers w c w' ↔
      ∃ entries, entries.map Prod.fst = tests ∧ Measured answers probe entries w w' ∧
        b.setAll entries = c := by
  induction tests generalizing b w with
  | nil =>
    rw [runEach, Dialogue.pure_eq, Dialogue.yields_done]
    constructor
    · rintro ⟨rfl, rfl⟩
      exact ⟨[], rfl, .nil w', rfl⟩
    · rintro ⟨entries, hnil, hmeasured, rfl⟩
      obtain rfl := List.map_eq_nil_iff.1 hnil
      cases hmeasured
      exact ⟨rfl, rfl⟩
  | cons t tests ih =>
    rw [runEach, Dialogue.yields_bind]
    constructor
    · rintro ⟨r, w₁, first, rest⟩
      obtain ⟨entries, rfl, hmeasured, hset⟩ := ih.1 rest
      exact ⟨(t, r) :: entries, rfl, .cons first hmeasured, hset⟩
    · rintro ⟨entries, htests, hmeasured, hset⟩
      cases hmeasured with
      | nil => cases htests
      | cons first rest =>
        obtain ⟨rfl, rfl⟩ := List.cons.inj htests
        exact ⟨_, _, first, ih.2 ⟨_, rfl, rest, hset⟩⟩

/-- A probe hands in a report of the kind of its sub-test. -/
theorem measure_fits {p : Plan} {slice : Span} {t : SubTest} {r : Report}
    (h : ((Probe.ofPlan p t).measure slice).Yields answers w r w') : r.fits t := by
  rw [Probe.ofPlan, Probe.requested] at h
  by_cases ht : t.isLatency
  · rw [if_pos ht, Probe.measure] at h
    obtain ⟨result, -, rfl⟩ := Dialogue.yields_map.1 h
    exact ht
  · rw [if_neg ht, Probe.measure] at h
    obtain ⟨result, -, rfl⟩ := Dialogue.yields_map.1 h
    simp [Report.fits, ht]

end Engine

namespace Plan

open Engine

variable {p : Plan} {b : BenchResult} {s : RunSummary}

/-- The measurement of a sub-test with its share of the budget. -/
def measurement (p : Plan) (slice : Span) (t : SubTest) : Run Report :=
  (Probe.ofPlan p t).measure slice

/--
The course of a run. If there is no share of the budget, the clock is read twice and nothing else
happens. Otherwise the enabled sub-tests are measured in their order between the start and the end
of an operation; the result holds their reports and nothing else.
-/
inductive Conducted (answers : Answers W Request.Answer) (p : Plan) :
    W → BenchResult → RunSummary → W → Prop where
  | idle {w w₁ w₂ : W} {started ended : Nat} (unshared : p.slice? = none)
      (start : Run.clock.Yields answers w started w₁)
      (finish : Run.clock.Yields answers w₁ ended w₂) :
      Conducted answers p w {}
        { enabled := p.enabled, total := Span.ofNanos (ended - started) } w₂
  | busy {w w₁ w₂ w₃ w₄ w₅ w₆ : W} {slice : Span} {started ended : Nat} {id : String}
      {b : BenchResult} (shared : p.slice? = some slice)
      (start : Run.clock.Yields answers w started w₁)
      (planned : (Run.report (.slicePlan p.budget p.enabled slice)).Yields answers w₁ () w₂)
      (opened : (Run.openOperation operation).Yields answers w₂ id w₃)
      (measured : Measured answers (p.measurement slice)
        (p.enabled.map fun t => (t, b.get t)) w₃ w₄)
      (others : ∀ t, t ∉ p.enabled → b.get t = BenchResult.get {} t)
      (closed : (Run.closeOperation id operation b.anySuccess).Yields answers w₄ () w₅)
      (finish : Run.clock.Yields answers w₅ ended w₆) :
      Conducted answers p w b (p.summary slice (Span.ofNanos (ended - started)) b) w₆

theorem nodup_enabled (p : Plan) : p.enabled.Nodup := SubTest.nodup_all.filter _

/-- The measurements of the enabled sub-tests are found in the result. -/
theorem yields_measurements {slice : Span} :
    (runEach (p.measurement slice) p.enabled {}).Yields answers w b w' ↔
      Measured answers (p.measurement slice) (p.enabled.map fun t => (t, b.get t)) w w' ∧
        ∀ t, t ∉ p.enabled → b.get t = BenchResult.get {} t := by
  have hfits : ∀ t r (w w' : W),
      (p.measurement slice t).Yields answers w r w' → r.fits t := fun t r w w' h => measure_fits h
  have hkeys : (p.enabled.map fun t => (t, b.get t)).map Prod.fst = p.enabled := by
    rw [List.map_map]
    exact List.map_id _
  rw [yields_runEach]
  constructor
  · rintro ⟨entries, htests, hmeasured, hset⟩
    rw [BenchResult.setAll_eq_iff (htests ▸ p.nodup_enabled) (hmeasured.forall_mem hfits),
      htests] at hset
    obtain ⟨hentries, hothers⟩ := hset
    exact ⟨hentries ▸ hmeasured, hothers⟩
  · rintro ⟨hmeasured, hothers⟩
    refine ⟨_, hkeys, hmeasured, ?_⟩
    rw [BenchResult.setAll_eq_iff (hkeys.symm ▸ p.nodup_enabled) (hmeasured.forall_mem hfits),
      hkeys]
    exact ⟨rfl, hothers⟩

/-- A run yields what is conducted, and all of it. -/
theorem yields_run : p.run.Yields answers w (b, s) w' ↔ p.Conducted answers w b s w' := by
  rw [run, conduct, Dialogue.yields_bind]
  constructor
  · rintro ⟨started, w₁, start, h⟩
    split at h
    next unshared =>
      obtain ⟨ended, w₂, finish, h⟩ := Dialogue.yields_bind.1 h
      obtain ⟨heq, rfl⟩ := Dialogue.yields_done.1 h
      obtain ⟨rfl, rfl⟩ := Prod.mk.inj heq
      exact .idle unshared start finish
    next slice shared =>
      obtain ⟨⟨⟩, w₂, planned, h⟩ := Dialogue.yields_bind.1 h
      obtain ⟨id, w₃, opened, h⟩ := Dialogue.yields_bind.1 h
      obtain ⟨result, w₄, measured, h⟩ := Dialogue.yields_bind.1 h
      obtain ⟨⟨⟩, w₅, closed, h⟩ := Dialogue.yields_bind.1 h
      obtain ⟨ended, w₆, finish, h⟩ := Dialogue.yields_bind.1 h
      obtain ⟨heq, rfl⟩ := Dialogue.yields_done.1 h
      obtain ⟨rfl, rfl⟩ := Prod.mk.inj heq
      obtain ⟨measured, others⟩ := yields_measurements.1 measured
      exact .busy shared start planned opened measured others closed finish
  · intro h
    cases h with
    | idle unshared start finish =>
      refine ⟨_, _, start, ?_⟩
      rw [unshared]
      exact Dialogue.yields_bind.2 ⟨_, _, finish, .done _ _⟩
    | busy shared start planned opened measured others closed finish =>
      refine ⟨_, _, start, ?_⟩
      rw [shared]
      refine Dialogue.yields_bind.2 ⟨(), _, planned, ?_⟩
      refine Dialogue.yields_bind.2 ⟨_, _, opened, ?_⟩
      refine Dialogue.yields_bind.2 ⟨_, _, yields_measurements.2 ⟨measured, others⟩, ?_⟩
      refine Dialogue.yields_bind.2 ⟨(), _, closed, ?_⟩
      exact Dialogue.yields_bind.2 ⟨_, _, finish, .done _ _⟩

end Plan

end LoopGauge
