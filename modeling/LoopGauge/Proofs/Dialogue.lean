import LoopGauge.Dialogue

/-!
# Dialogues in a world

A world answers the questions of a dialogue and changes with every answer. What it may answer is a
relation, so a statement about all that a dialogue can yield in a world speaks of every answer the
world may give and of everything that happens between two questions.

## Main definitions

* `Answers W A`: the answers that a world may give, with the world afterwards.
* `Dialogue.Yields`: a dialogue, answered by a world, comes to a result.
* `Answers.through`: the world that answers questions by asking others.
* `Answers.of`: the world that is a machine.

## Main statements

* `yields_bind`: a sequence yields what its parts yield one after the other.
* `yields_run`: a dialogue whose questions are answered by asking others.
* `exists_yields`: a dialogue comes to a result if no question stays without an answer.
-/

namespace LoopGauge

/-- The answers that a world may give to a question, and what the world is after that. -/
abbrev Answers (W : Type) {Q : Type} (A : Q → Type) : Type := W → (q : Q) → A q → W → Prop

namespace Dialogue

variable {Q R W S : Type} {A : Q → Type} {B : R → Type} {α β ε : Type}

/-- A dialogue in a world comes to a result and leaves a world. -/
inductive Yields (answers : Answers W A) : Dialogue Q A α → W → α → W → Prop where
  | done (a : α) (w : W) : Yields answers (.done a) w a w
  | ask {q : Q} {next : A q → Dialogue Q A α} {w w₁ w₂ : W} {answer : A q} {a : α}
      (answered : answers w q answer w₁) (rest : Yields answers (next answer) w₁ a w₂) :
      Yields answers (.ask q next) w a w₂

variable {answers : Answers W A} {w w' : W}

@[simp]
theorem yields_done {a b : α} : (done a).Yields answers w b w' ↔ b = a ∧ w' = w := by
  constructor
  · intro h
    cases h
    exact ⟨rfl, rfl⟩
  · rintro ⟨rfl, rfl⟩
    exact .done _ _

theorem yields_ask {q : Q} {next : A q → Dialogue Q A α} {a : α} :
    (ask q next).Yields answers w a w' ↔
      ∃ answer w₁, answers w q answer w₁ ∧ (next answer).Yields answers w₁ a w' := by
  constructor
  · intro h
    cases h with
    | ask answered rest => exact ⟨_, _, answered, rest⟩
  · rintro ⟨answer, w₁, answered, rest⟩
    exact .ask answered rest

@[simp]
theorem yields_request {q : Q} {answer : A q} :
    (request q).Yields answers w answer w' ↔ answers w q answer w' := by
  rw [request, yields_ask]
  constructor
  · rintro ⟨a, w₁, answered, rest⟩
    obtain ⟨rfl, rfl⟩ := yields_done.1 rest
    exact answered
  · intro answered
    exact ⟨answer, w', answered, .done _ _⟩

theorem yields_bind {d : Dialogue Q A α} {f : α → Dialogue Q A β} {b : β} :
    (d >>= f).Yields answers w b w' ↔
      ∃ a w₁, d.Yields answers w a w₁ ∧ (f a).Yields answers w₁ b w' := by
  induction d generalizing w with
  | done a =>
    rw [done_bind]
    constructor
    · intro h
      exact ⟨a, w, .done a w, h⟩
    · rintro ⟨a', w₁, hdone, h⟩
      obtain ⟨rfl, rfl⟩ := yields_done.1 hdone
      exact h
  | ask q next ih =>
    rw [ask_bind, yields_ask]
    constructor
    · rintro ⟨answer, w₁, answered, rest⟩
      obtain ⟨a, w₂, hfirst, hthen⟩ := ih answer |>.1 rest
      exact ⟨a, w₂, .ask answered hfirst, hthen⟩
    · rintro ⟨a, w₂, hfirst, hthen⟩
      obtain ⟨answer, w₁, answered, rest⟩ := yields_ask.1 hfirst
      exact ⟨answer, w₁, answered, ih answer |>.2 ⟨a, w₂, rest, hthen⟩⟩

theorem yields_map {d : Dialogue Q A α} {f : α → β} {b : β} :
    (f <$> d).Yields answers w b w' ↔ ∃ a, d.Yields answers w a w' ∧ b = f a := by
  rw [map_eq_pure_bind, yields_bind]
  constructor
  · rintro ⟨a, w₁, hd, hpure⟩
    obtain ⟨rfl, rfl⟩ := yields_done.1 hpure
    exact ⟨a, hd, rfl⟩
  · rintro ⟨a, hd, rfl⟩
    exact ⟨a, w', hd, .done _ _⟩

/-- A sequence that the first fault ends has a result if all its parts have. -/
theorem yields_attempt_bind {x : ExceptT ε (Dialogue Q A) α} {f : α → ExceptT ε (Dialogue Q A) β}
    {b : β} : (x >>= f).run.Yields answers w (.ok b) w' ↔
      ∃ a w₁, x.run.Yields answers w (.ok a) w₁ ∧ (f a).run.Yields answers w₁ (.ok b) w' := by
  rw [ExceptT.run_bind, yields_bind]
  constructor
  · rintro ⟨r, w₁, hx, hf⟩
    cases r with
    | ok a => exact ⟨a, w₁, hx, hf⟩
    | error e => cases hf
  · rintro ⟨a, w₁, hx, hf⟩
    exact ⟨.ok a, w₁, hx, hf⟩

/-- A dialogue comes to a result if the world answers every question. -/
theorem exists_yields (hanswers : ∀ w q, ∃ answer w₁, answers w q answer w₁)
    (d : Dialogue Q A α) (w : W) : ∃ a w', d.Yields answers w a w' := by
  induction d generalizing w with
  | done a => exact ⟨a, w, .done a w⟩
  | ask q next ih =>
    obtain ⟨answer, w₁, answered⟩ := hanswers w q
    obtain ⟨a, w₂, rest⟩ := ih answer w₁
    exact ⟨a, w₂, .ask answered rest⟩

end Dialogue

namespace Answers

variable {Q R W S : Type} {A : Q → Type} {B : R → Type}

/-- The world that answers questions by asking others, with a state of its own. -/
def through (answers : Answers W A) (handler : (r : R) → StateT S (Dialogue Q A) (B r)) :
    Answers (S × W) B :=
  fun before r answer after =>
    ((handler r).run before.1).Yields answers before.2 (answer, after.1) after.2

/-- The world that is a machine. -/
def of (machine : (q : Q) → StateM W (A q)) : Answers W A :=
  fun before q answer after => (machine q).run before = (answer, after)

end Answers

namespace Dialogue

variable {Q R W S : Type} {A : Q → Type} {B : R → Type} {α : Type} {answers : Answers W A}

/-- A dialogue whose questions are answered by asking others yields what it yields in the world
that answers so. -/
theorem yields_run {handler : (r : R) → StateT S (Dialogue Q A) (B r)} {d : Dialogue R B α}
    {s s' : S} {w w' : W} {a : α} :
    ((d.run handler).run s).Yields answers w (a, s') w' ↔
      d.Yields (answers.through handler) (s, w) a (s', w') := by
  induction d generalizing s w with
  | done b =>
    rw [run_done, StateT.run_pure]
    constructor
    · intro h
      obtain ⟨heq, rfl⟩ := yields_done.1 h
      obtain ⟨rfl, rfl⟩ := Prod.mk.inj heq
      exact .done _ _
    · intro h
      obtain ⟨rfl, heq⟩ := yields_done.1 h
      obtain ⟨rfl, rfl⟩ := Prod.mk.inj heq
      exact .done _ _
  | ask q next ih =>
    rw [run_ask, StateT.run_bind, yields_bind, yields_ask]
    constructor
    · rintro ⟨⟨answer, s₁⟩, w₁, answered, rest⟩
      exact ⟨answer, (s₁, w₁), answered, ih answer |>.1 rest⟩
    · rintro ⟨answer, ⟨s₁, w₁⟩, answered, rest⟩
      exact ⟨(answer, s₁), w₁, answered, ih answer |>.2 rest⟩

/-- A dialogue yields what a machine computes. -/
theorem yields_of_iff {machine : (q : Q) → StateM W (A q)} {d : Dialogue Q A α} {w w' : W} {a : α} :
    d.Yields (.of machine) w a w' ↔ (d.run machine).run w = (a, w') := by
  induction d generalizing w with
  | done b =>
    rw [run_done, yields_done, StateT.run_pure]
    constructor
    · rintro ⟨rfl, rfl⟩
      rfl
    · intro h
      obtain ⟨rfl, rfl⟩ := Prod.mk.inj h
      exact ⟨rfl, rfl⟩
  | ask q next ih =>
    rw [run_ask, yields_ask, StateT.run_bind]
    constructor
    · rintro ⟨answer, w₁, answered, rest⟩
      rw [Answers.of] at answered
      rw [answered]
      exact (ih answer).1 rest
    · intro h
      exact ⟨_, _, rfl, (ih _).2 h⟩

theorem yields_of (machine : (q : Q) → StateM W (A q)) (d : Dialogue Q A α) (w : W) :
    d.Yields (.of machine) w ((d.run machine).run w).1 ((d.run machine).run w).2 :=
  yields_of_iff.2 rfl

end Dialogue

end LoopGauge
