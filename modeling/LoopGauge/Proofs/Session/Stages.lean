import LoopGauge.Proofs.Run.Course
import LoopGauge.Session.Application

/-!
# What stages of a session yield

A stage either goes on or ends the application. Writing, records and runs always go on, so only
the settings and the second look at the env file can end it.

## Main definitions

* `Stage.Sure`: a stage always goes on.

## Main statements

* `Stage.of_bind`: what a sequence of stages yields.
* `of_benchmark`: a benchmark always comes to an outcome, that of the run of its plan.
-/

namespace LoopGauge

namespace Session

open Dialogue

variable {W : Type} {answers : Answers W Request.Answer} {w w' : W} {α β : Type}

namespace Stage

/-- A stage always goes on. -/
def Sure (answers : Answers W Request.Answer) (x : Stage α) : Prop :=
  ∀ w r w', x.run.Yields answers w r w' → ∃ a, r = .ok a

/-- A sequence yields what its second part yields, unless the first ends it. -/
theorem of_bind {x : Stage α} {f : α → Stage β} {r : Except Halt β}
    (h : (x >>= f).run.Yields answers w r w') :
    (∃ a w₁, x.run.Yields answers w (.ok a) w₁ ∧ (f a).run.Yields answers w₁ r w') ∨
      ∃ halt, x.run.Yields answers w (.error halt) w' ∧ r = .error halt := by
  rw [ExceptT.run_bind, yields_bind] at h
  obtain ⟨first, w₁, hx, h⟩ := h
  cases first with
  | ok a => exact .inl ⟨a, w₁, hx, h⟩
  | error halt =>
    obtain ⟨rfl, rfl⟩ := yields_done.1 h
    exact .inr ⟨halt, hx, rfl⟩

theorem Sure.of_bind {x : Stage α} (hx : Sure answers x) {f : α → Stage β} {r : Except Halt β}
    (h : (x >>= f).run.Yields answers w r w') :
    ∃ a w₁, x.run.Yields answers w (.ok a) w₁ ∧ (f a).run.Yields answers w₁ r w' := by
  obtain h | ⟨halt, h, -⟩ := Stage.of_bind h
  · exact h
  · obtain ⟨a, ha⟩ := hx _ _ _ h
    cases ha

theorem of_step {s : Step α} {r : Except Halt α}
    (h : (step s).run.Yields answers w r w') : ∃ a, r = .ok a ∧ s.Yields answers w a w' := by
  rw [step, ExceptT.run_lift, yields_map] at h
  obtain ⟨a, hs, rfl⟩ := h
  exact ⟨a, rfl, hs⟩

theorem sure_step (s : Step α) : Sure answers (step s) := by
  intro w r w' h
  obtain ⟨a, hr, -⟩ := of_step h
  exact ⟨a, hr⟩

theorem sure_pure (a : α) : Sure answers (pure a : Stage α) := by
  intro w r w' h
  obtain ⟨rfl, -⟩ := yields_done.1 h
  exact ⟨a, rfl⟩

theorem Sure.bind {x : Stage α} (hx : Sure answers x) {f : α → Stage β}
    (hf : ∀ a, Sure answers (f a)) : Sure answers (x >>= f) := by
  intro w r w' h
  obtain ⟨a, w₁, -, h⟩ := hx.of_bind h
  exact hf a _ _ _ h

theorem sure_forM {f : α → Stage Unit} (hf : ∀ a, Sure answers (f a)) (as : List α) :
    Sure answers (as.forM f) := by
  induction as with
  | nil => exact sure_pure ()
  | cons a as ih => exact (hf a).bind fun _ => ih

/-- What is done on a condition does not keep from going on. -/
theorem Sure.of_ite {x : Stage Unit} (hx : Sure answers x) {f : Unit → Stage α}
    {r : Except Halt α} {condition : Prop} [Decidable condition]
    (h : (if condition then x >>= f else f ()).run.Yields answers w r w') :
    ∃ w₁, (f ()).run.Yields answers w₁ r w' := by
  by_cases hcondition : condition
  · rw [if_pos hcondition] at h
    obtain ⟨⟨⟩, w₁, -, h⟩ := hx.of_bind h
    exact ⟨w₁, h⟩
  · rw [if_neg hcondition] at h
    exact ⟨w, h⟩

/-- A result that is known ends the application or is gone on with. -/
theorem of_ofExcept_bind {ε : Type} {halt : ε → Halt} {known : Except ε α} {f : α → Stage β}
    {r : Except Halt β} (h : (ofExcept halt known >>= f).run.Yields answers w r w') :
    (∃ a, known = .ok a ∧ (f a).run.Yields answers w r w') ∨
      ∃ e, known = .error e ∧ r = .error (halt e) ∧ w' = w := by
  rw [ExceptT.run_bind, yields_bind] at h
  obtain ⟨first, w₁, hfirst, h⟩ := h
  obtain ⟨rfl, rfl⟩ := yields_done.1 hfirst
  cases known with
  | ok a => exact .inl ⟨a, rfl, h⟩
  | error e =>
    obtain ⟨rfl, rfl⟩ := yields_done.1 h
    exact .inr ⟨e, rfl, rfl, rfl⟩

end Stage

open Stage

namespace Prepared

theorem sure_note (p : Prepared) (level : Log.Level) (line : Nat) (message : String) :
    Sure answers (p.note level line message) :=
  sure_step _

/-- A run within a session is a run in a world that records its events. -/
theorem of_run {p : Prepared} {plan : Plan} {r : Except Halt (BenchResult × RunSummary)}
    (h : (p.run plan).run.Yields answers w r w') :
    ∃ b s context, r = .ok (b, s) ∧
      plan.Conducted (answers.through (Step.answer (.ofSettings Engine.recorder p.settings)))
        (p.context, w) b s (context, w') := by
  obtain ⟨⟨b, s⟩, hr, hstep⟩ := of_step h
  rw [Step.conduct_eq] at hstep
  obtain ⟨⟨result, context⟩, hrun, rfl⟩ := yields_map.1 hstep
  exact ⟨b, s, context, hr, Plan.yields_run.1 (yields_run.1 hrun)⟩

theorem sure_answer (p : Prepared) (plan : Plan) (b : BenchResult) (s : RunSummary) :
    Sure answers (p.answer plan b s) := by
  rw [answer]
  split
  · exact (sure_step _).bind fun _ => sure_step _
  · refine (sure_step _).bind fun _ => ?_
    split
    · exact sure_step _
    · exact sure_pure ()

end Prepared

namespace Invocation

/-- A benchmark always comes to an outcome, that of the run of its plan. -/
theorem of_benchmark {p : Prepared} {r : Except Halt Outcome}
    (h : (benchmark p).run.Yields answers w r w') :
    ∃ b s, r = .ok (.completed b s) ∧ ∃ before after,
      (Plan.ofSettings p.settings).Conducted
        (answers.through (Step.answer (.ofSettings Engine.recorder p.settings))) before b s
        after := by
  obtain ⟨⟨⟩, w₁, -, h⟩ := (p.sure_note _ _ _).of_bind h
  obtain ⟨⟨b, s⟩, w₂, hrun, h⟩ | ⟨halt, hrun, -⟩ := Stage.of_bind h
  · obtain ⟨⟨⟩, w₃, -, h⟩ := (p.sure_note _ _ _).of_bind h
    obtain ⟨⟨⟩, w₄, -, h⟩ := (p.sure_answer _ b s).of_bind h
    obtain ⟨b', s', context, heq, hconducted⟩ := Prepared.of_run hrun
    obtain ⟨rfl, rfl⟩ := Prod.mk.inj (Except.ok.inj heq)
    refine ⟨b, s, ?_, _, _, hconducted⟩
    dsimp only at h
    split at h
    · obtain ⟨⟨⟩, w₅, -, h⟩ := (p.sure_note _ _ _).of_bind h
      exact (yields_done.1 h).1
    · exact (yields_done.1 h).1
  · obtain ⟨b, s, context, heq, -⟩ := Prepared.of_run hrun
    cases heq

end Invocation

end Session

end LoopGauge
