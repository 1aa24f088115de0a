import LoopGauge.Proofs.Moment
import LoopGauge.Proofs.Transcript

/-!
# Keeping books on a dialogue

Books are kept on what a dialogue asks and is answered. A dialogue conforms to a state of the books
if, whatever it is answered, each of its questions may be asked as the books stand then, and its
result fits the books in the end. So what holds of a sequence is put together from what holds of its
parts, and what conforms at one moment conforms at all later ones.

## Main definitions

* `Dialogue.Conforms`: a dialogue conforms to the books.

## Main statements

* `Dialogue.Conforms.bind`: a sequence conforms if each part conforms to what the one before leaves.
* `Dialogue.Conforms.attempt_bind`: a sequence that the first fault ends.
-/

namespace LoopGauge.Dialogue

variable {Q W G H : Type} {A : Q → Type} {α β ε : Type}

/-- A dialogue conforms to the books: its questions may be asked as the books stand, and its result
fits them. -/
def Conforms (note : (q : Q) → A q → G → G) (may : Q → G → Prop) (ends : α → G → Prop) :
    Dialogue Q A α → G → Prop
  | done a, books => ends a books
  | ask q next, books =>
    may q books ∧ ∀ answer, (next answer).Conforms note may ends (note q answer books)

variable {note : (q : Q) → A q → G → G} {may : Q → G → Prop} {ends ends' : α → G → Prop}
  {mid : α → G → Prop} {d : Dialogue Q A α} {books : G}

theorem Conforms.mono (h : d.Conforms note may ends books)
    (himp : ∀ a books, ends a books → ends' a books) : d.Conforms note may ends' books := by
  induction d generalizing books with
  | done a => exact himp a books h
  | ask q next ih => exact ⟨h.1, fun answer => ih answer (h.2 answer)⟩

/-- A sequence conforms if each part conforms to the books as the part before leaves them. -/
theorem Conforms.bind {f : α → Dialogue Q A β} {ends : β → G → Prop}
    (hd : d.Conforms note may mid books)
    (hf : ∀ a books, mid a books → (f a).Conforms note may ends books) :
    (d >>= f).Conforms note may ends books := by
  induction d generalizing books with
  | done a => exact hf a books hd
  | ask q next ih => exact ⟨hd.1, fun answer => ih answer (hd.2 answer)⟩

theorem Conforms.map {f : α → β} {ends : β → G → Prop}
    (hd : d.Conforms note may (fun a => ends (f a)) books) :
    (f <$> d).Conforms note may ends books := by
  rw [map_eq_pure_bind]
  exact hd.bind fun _ _ h => h

/-- Questions that may always be asked and of which the books take no note. -/
theorem Conforms.of_only {P : Q → Prop} (hd : d.Only P) (hmay : ∀ q, P q → may q books)
    (hnote : ∀ q answer, P q → note q answer books = books) (hends : ∀ a, ends a books) :
    d.Conforms note may ends books := by
  induction d with
  | done a => exact hends a
  | ask q next ih =>
    refine ⟨hmay q hd.1, fun answer => ?_⟩
    rw [hnote q answer hd.1]
    exact ih answer (hd.2 answer)

/-- Books from which others can be read off. -/
theorem Conforms.read {note' : (q : Q) → A q → H → H} {may' : Q → H → Prop}
    {ends' : α → H → Prop} (view : G → H) (hd : d.Conforms note may ends books)
    (hmay : ∀ q books, may q books → may' q (view books))
    (hnote : ∀ q answer books, view (note q answer books) = note' q answer (view books))
    (hends : ∀ a books, ends a books → ends' a (view books)) :
    d.Conforms note' may' ends' (view books) := by
  induction d generalizing books with
  | done a => exact hends a books hd
  | ask q next ih =>
    refine ⟨hmay q books hd.1, fun answer => ?_⟩
    rw [← hnote]
    exact ih answer (hd.2 answer)

/-- What a dialogue leaves when it is answered conforms to the books with a note of the answer. -/
theorem Conforms.turn {answers : Answers W A} {d' : Dialogue Q A α} {w w' : W}
    (hd : d.Conforms note may ends books) (h : Turn answers d w d' w') :
    ∃ q answer, answers w q answer w' ∧ may q books ∧
      d'.Conforms note may ends (note q answer books) := by
  cases h with
  | intro answered => exact ⟨_, _, answered, hd.1, hd.2 _⟩

section Attempt

variable {x : ExceptT ε (Dialogue Q A) α} {f : α → ExceptT ε (Dialogue Q A) β}
  {mid : Except ε α → G → Prop} {ends : Except ε β → G → Prop}

/-- A sequence that the first fault ends. -/
theorem Conforms.attempt_bind (hx : x.run.Conforms note may mid books)
    (hok : ∀ a books, mid (.ok a) books → (f a).run.Conforms note may ends books)
    (herror : ∀ e books, mid (.error e) books → ends (.error e) books) :
    (x >>= f).run.Conforms note may ends books := by
  rw [ExceptT.run_bind]
  refine hx.bind fun r books h => ?_
  cases r with
  | ok a => exact hok a books h
  | error e => exact herror e books h

/-- A sequence that starts with what cannot fail. -/
theorem Conforms.lift_bind {r : Dialogue Q A α} {mid : α → G → Prop}
    (hr : r.Conforms note may mid books)
    (hf : ∀ a books, mid a books → (f a).run.Conforms note may ends books) :
    ((ExceptT.lift r : ExceptT ε (Dialogue Q A) α) >>= f).run.Conforms note may ends books := by
  rw [ExceptT.run_bind_lift]
  exact hr.bind hf

end Attempt

end LoopGauge.Dialogue
