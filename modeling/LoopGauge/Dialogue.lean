/-!
# Dialogues

A computation that asks its surroundings questions, as a tree: a node is a question, and for every
answer there is a way on. Nothing is said about who answers, so a statement about a dialogue can
speak of all answers, and the same dialogue can be answered by a machine or by a model of one.

## Main definitions

* `Dialogue Q A α`: a computation of an `α` that asks questions of `Q`; the answers to `q` are
  of type `A q`.
* `Dialogue.run`: answers every question in a monad.
* `Dialogue.embed`: the same dialogue among more questions.
-/

namespace LoopGauge

/-- A computation of an `α` that asks questions. -/
inductive Dialogue (Q : Type) (A : Q → Type) (α : Type) : Type where
  | done (a : α)
  | ask (q : Q) (next : A q → Dialogue Q A α)

namespace Dialogue

variable {Q R : Type} {A : Q → Type} {B : R → Type} {α β γ : Type}

/-- Goes on with the result. -/
def bind : Dialogue Q A α → (α → Dialogue Q A β) → Dialogue Q A β
  | done a, f => f a
  | ask q next, f => ask q fun answer => (next answer).bind f

instance : Monad (Dialogue Q A) where
  pure := done
  bind := bind

/-- A single question. -/
def request (q : Q) : Dialogue Q A (A q) := ask q done

/-- Answers every question in a monad. -/
@[specialize]
def run {m : Type → Type} [Monad m] (answer : (q : Q) → m (A q)) : Dialogue Q A α → m α
  | done a => pure a
  | ask q next => do run answer (next (← answer q))

/-- The same dialogue, with its questions among those of another kind. -/
def embed (f : R → Q) : Dialogue R (fun r => A (f r)) α → Dialogue Q A α
  | done a => done a
  | ask r next => ask (f r) fun answer => (next answer).embed f

@[simp]
theorem pure_eq (a : α) : (pure a : Dialogue Q A α) = done a := rfl

@[simp]
theorem done_bind (a : α) (f : α → Dialogue Q A β) : (done a >>= f) = f a := rfl

@[simp]
theorem ask_bind (q : Q) (next : A q → Dialogue Q A α) (f : α → Dialogue Q A β) :
    (ask q next >>= f) = ask q fun answer => next answer >>= f := rfl

@[simp]
theorem request_bind (q : Q) (f : A q → Dialogue Q A β) : (request q >>= f) = ask q f := rfl

theorem bind_done (d : Dialogue Q A α) : (d >>= done) = d := by
  induction d with
  | done a => rfl
  | ask q next ih => exact congrArg (ask q) (funext ih)

theorem bind_bind (d : Dialogue Q A α) (f : α → Dialogue Q A β) (g : β → Dialogue Q A γ) :
    (d >>= f >>= g) = (d >>= fun a => f a >>= g) := by
  induction d with
  | done a => rfl
  | ask q next ih => exact congrArg (ask q) (funext ih)

instance : LawfulMonad (Dialogue Q A) :=
  LawfulMonad.mk' _ (fun d => bind_done d) (fun _ _ => rfl) bind_bind

@[simp]
theorem run_done {m : Type → Type} [Monad m] (answer : (q : Q) → m (A q)) (a : α) :
    (done a).run answer = pure a := rfl

theorem run_ask {m : Type → Type} [Monad m] (answer : (q : Q) → m (A q)) (q : Q)
    (next : A q → Dialogue Q A α) :
    (ask q next).run answer = answer q >>= fun a => (next a).run answer := rfl

/-- Answering a sequence is a sequence of answers. -/
theorem run_bind {m : Type → Type} [Monad m] [LawfulMonad m] (answer : (q : Q) → m (A q))
    (d : Dialogue Q A α) (f : α → Dialogue Q A β) :
    (d >>= f).run answer = d.run answer >>= fun a => (f a).run answer := by
  induction d with
  | done a => simp
  | ask q next ih => simp [run_ask, ih]

theorem embed_bind (f : R → Q) (d : Dialogue R (fun r => A (f r)) α)
    (g : α → Dialogue R (fun r => A (f r)) β) :
    (d >>= g).embed f = d.embed f >>= fun a => (g a).embed f := by
  induction d with
  | done a => rfl
  | ask q next ih => exact congrArg (ask (f q)) (funext ih)

end Dialogue

end LoopGauge
