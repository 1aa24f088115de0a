import LoopGauge.Proofs.Dialogue

/-!
# Moments of a dialogue

A dialogue whose world does not stand still: between two of its questions the world may change by
itself, for instance since somebody else works in it. A moment of the dialogue is what is left of it
and the world at that time, so what holds at all moments holds however the two are interleaved.

## Main definitions

* `Dialogue.Turn`: one question of a dialogue is answered.
* `Dialogue.Reaches`: a dialogue comes from one moment to another.

## Main statements

* `Dialogue.exists_of_turn_view`: a dialogue that goes from place to place.
* `Dialogue.Reaches.trans`: moments of a later moment are moments.
-/

namespace LoopGauge.Dialogue

variable {Q W : Type} {A : Q → Type} {α : Type} {answers : Answers W A} {drifts : W → W → Prop}

/-- One question of a dialogue is answered. -/
inductive Turn (answers : Answers W A) : Dialogue Q A α → W → Dialogue Q A α → W → Prop where
  | intro {q : Q} {next : A q → Dialogue Q A α} {w w' : W} {answer : A q}
      (answered : answers w q answer w') : Turn answers (.ask q next) w (next answer) w'

/-- What may be left of a dialogue later, and what the world may be then. -/
inductive Reaches (answers : Answers W A) (drifts : W → W → Prop) (d : Dialogue Q A α) (w : W) :
    Dialogue Q A α → W → Prop where
  | start : Reaches answers drifts d w d w
  | turn {d₁ d₂ : Dialogue Q A α} {w₁ w₂ : W} (before : Reaches answers drifts d w d₁ w₁)
      (turn : Turn answers d₁ w₁ d₂ w₂) : Reaches answers drifts d w d₂ w₂
  | drift {d₁ : Dialogue Q A α} {w₁ w₂ : W} (before : Reaches answers drifts d w d₁ w₁)
      (drift : drifts w₁ w₂) : Reaches answers drifts d w d₁ w₂

theorem not_turn_done {a : α} {d : Dialogue Q A α} {w w' : W} :
    ¬Turn answers (.done a) w d w' := by
  intro h
  cases h

theorem turn_ask {q : Q} {next : A q → Dialogue Q A α} {d : Dialogue Q A α} {w w' : W} :
    Turn answers (.ask q next) w d w' ↔ ∃ answer, answers w q answer w' ∧ d = next answer := by
  constructor
  · intro h
    cases h with
    | intro answered => exact ⟨_, answered, rfl⟩
  · rintro ⟨answer, answered, rfl⟩
    exact .intro answered

/-- Where a dialogue asks in every place what the view of the place says, an answer leads from place
to place. -/
theorem exists_of_turn_view {P : Type} {view : P → Option ((q : Q) × (A q → P))}
    {rest : P → Dialogue Q A α} (hdone : ∀ p, view p = none → ∃ a, rest p = .done a)
    (hask : ∀ p q next, view p = some ⟨q, next⟩ → rest p = .ask q fun answer => rest (next answer))
    {p : P} {left : Dialogue Q A α} {w w' : W} (h : Turn answers (rest p) w left w') :
    ∃ q next answer, view p = some ⟨q, next⟩ ∧ answers w q answer w' ∧
      left = rest (next answer) := by
  cases hview : view p with
  | none =>
    obtain ⟨a, ha⟩ := hdone p hview
    rw [ha] at h
    exact absurd h not_turn_done
  | some v =>
    rw [hask p v.1 v.2 hview] at h
    obtain ⟨answer, answered, rfl⟩ := turn_ask.1 h
    exact ⟨v.1, v.2, answer, rfl, answered, rfl⟩

variable {d d₁ d₂ : Dialogue Q A α} {w w₁ w₂ : W}

theorem Reaches.trans (h : Reaches answers drifts d w d₁ w₁)
    (h' : Reaches answers drifts d₁ w₁ d₂ w₂) : Reaches answers drifts d w d₂ w₂ := by
  induction h' with
  | start => exact h
  | turn before turn ih => exact ih.turn turn
  | drift before drift ih => exact ih.drift drift

/-- A question is answered at a moment. -/
theorem Reaches.ask {q : Q} {next : A q → Dialogue Q A α}
    (h : Reaches answers drifts d w (.ask q next) w₁) {answer : A q}
    (answered : answers w₁ q answer w₂) : Reaches answers drifts d w (next answer) w₂ :=
  h.turn (.intro answered)

end LoopGauge.Dialogue
