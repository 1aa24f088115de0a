import LoopGauge.Proofs.Dialogue

/-!
# Transcripts of dialogues

A world can keep a transcript of what it was asked and what it answered. Whatever it answers, the
transcript of a dialogue holds only questions that the dialogue may ask, so what no question of a
kind does, the dialogue does not do.

## Main definitions

* `Answers.transcribed`: the world that also keeps a transcript.
* `Dialogue.Only`: all questions of a dialogue are of a kind.

## Main statements

* `Dialogue.Only.run`: the questions by which the questions of a dialogue are answered.
* `Dialogue.Only.transcript`: what a dialogue adds to the transcript.
-/

namespace LoopGauge

variable {Q R W S : Type} {A : Q → Type} {B : R → Type} {α β : Type}

/-- What was asked and answered, in order. -/
abbrev Transcript {Q : Type} (A : Q → Type) : Type := List ((q : Q) × A q)

/-- The world that also keeps a transcript. -/
def Answers.transcribed (answers : Answers W A) : Answers (W × Transcript A) A :=
  fun before q answer after =>
    answers before.1 q answer after.1 ∧ after.2 = before.2 ++ [⟨q, answer⟩]

namespace Dialogue

/-- All questions are of a kind, whatever is answered. -/
def Only (P : Q → Prop) : Dialogue Q A α → Prop
  | done _ => True
  | ask q next => P q ∧ ∀ answer, (next answer).Only P

variable {P P' : Q → Prop}

theorem only_request {q : Q} (h : P q) : (request q : Dialogue Q A (A q)).Only P :=
  ⟨h, fun _ => trivial⟩

theorem Only.mono (himp : ∀ q, P q → P' q) {d : Dialogue Q A α} (h : d.Only P) : d.Only P' := by
  induction d with
  | done a => trivial
  | ask q next ih => exact ⟨himp q h.1, fun answer => ih answer (h.2 answer)⟩

theorem Only.bind {d : Dialogue Q A α} {f : α → Dialogue Q A β} (hd : d.Only P)
    (hf : ∀ a, (f a).Only P) : (d >>= f).Only P := by
  induction d with
  | done a => exact hf a
  | ask q next ih => exact ⟨hd.1, fun answer => ih answer (hd.2 answer)⟩

theorem Only.map {d : Dialogue Q A α} (hd : d.Only P) (f : α → β) : (f <$> d).Only P := by
  rw [map_eq_pure_bind]
  exact hd.bind fun _ => trivial

/-- A sequence that the first fault ends. -/
theorem Only.attempt_bind {ε : Type} {x : ExceptT ε (Dialogue Q A) α}
    {f : α → ExceptT ε (Dialogue Q A) β} (hx : x.run.Only P) (hf : ∀ a, (f a).run.Only P) :
    (x >>= f).run.Only P := by
  rw [ExceptT.run_bind]
  refine hx.bind fun r => ?_
  cases r with
  | ok a => exact hf a
  | error e => trivial

/-- If every question is answered by asking for things of a kind, a dialogue asks only for such. -/
theorem only_run {handler : (r : R) → StateT S (Dialogue Q A) (B r)}
    (hhandler : ∀ r s, ((handler r).run s).Only P) (d : Dialogue R B α) (s : S) :
    ((d.run handler).run s).Only P := by
  induction d generalizing s with
  | done b => trivial
  | ask r next ih =>
    rw [run_ask, StateT.run_bind]
    exact (hhandler r s).bind fun (answer, s₁) => ih answer s₁

/-- A dialogue adds only questions of its kind to the transcript. -/
theorem Only.transcript {answers : Answers W A} {d : Dialogue Q A α} (hd : d.Only P)
    {before after : W × Transcript A} {a : α} (h : d.Yields answers.transcribed before a after) :
    ∃ added, after.2 = before.2 ++ added ∧ ∀ turn ∈ added, P turn.1 := by
  induction h with
  | done a w => exact ⟨[], by simp, by simp⟩
  | @ask q next w w₁ w₂ answer a answered rest ih =>
    obtain ⟨added, hadded, hkind⟩ := ih (hd.2 answer)
    refine ⟨⟨q, answer⟩ :: added, ?_, ?_⟩
    · rw [hadded, answered.2, List.append_assoc]
      rfl
    · intro turn hturn
      obtain rfl | hturn := List.mem_cons.1 hturn
      · exact hd.1
      · exact hkind turn hturn

/-- What was asked and answered before stays in the transcript. -/
theorem Yields.prefix_transcript {answers : Answers W A} {d : Dialogue Q A α}
    {before after : W × Transcript A} {a : α} (h : d.Yields answers.transcribed before a after) :
    before.2 <+: after.2 := by
  induction h with
  | done a w => exact List.prefix_refl _
  | ask answered rest ih => exact (answered.2 ▸ List.prefix_append _ _).trans ih

/-- What is yielded in a world is yielded in the world with a transcript. -/
theorem exists_yields_transcribed {answers : Answers W A} {d : Dialogue Q A α} {w w' : W} {a : α}
    (h : d.Yields answers w a w') (before : Transcript A) :
    ∃ after, d.Yields answers.transcribed (w, before) a (w', after) := by
  induction h generalizing before with
  | done a w => exact ⟨before, .done a _⟩
  | ask answered rest ih =>
    obtain ⟨after, hrest⟩ := ih (before ++ [⟨_, _⟩])
    exact ⟨after, .ask ⟨answered, rfl⟩ hrest⟩

end Dialogue

end LoopGauge
