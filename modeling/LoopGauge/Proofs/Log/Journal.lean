import LoopGauge.Proofs.Log.Operation

/-!
# Journals of a family of loggers

Many parties make calls of a logger and its copies at the same time. One of them is a run, which
makes one call after the other; the others make as many at a time as they like, so calls overlap in
every possible way. The journal knows what has been done to the context that the loggers share, in
order, and what each act has found there.

## Main definitions

* `Loggers.Share`: all loggers have one context.
* `Journal`: the loggers, the calls under way, and what has been done.
* `Journal.Step`: what anybody may do next.
* `Journal.Sound`: the context agrees with what has been done, now and at every earlier act.

## Main statements

* `Journal.Sound.step`: no step changes that.
-/

namespace LoopGauge.Log

namespace Loggers

/-- All loggers have this context. -/
structure Share (ls : Loggers) (c : Context) : Prop where
  contexts : ls.contexts = [c]
  members : ∀ (i : Nat) (l : Logger) (k : Nat), ls.members[i]? = some (l, k) → k = 0

variable {ls : Loggers} {c found : Context} {i : Nat}

theorem share_add (l : Logger) (c : Context) : (Loggers.add {} l c).Share c where
  contexts := rfl
  members i l' k h := by
    obtain hnone | ⟨-, hlast⟩ := getElem?_concat_eq_some_iff.1 h
    · cases hnone
    · exact (Prod.mk.inj hlast).2.symm

theorem Share.copy (h : ls.Share c) (i : Nat) : (ls.copy i).Share c := by
  rw [Loggers.copy]
  split
  next member hi =>
    refine ⟨h.contexts, fun j l k hj => ?_⟩
    obtain hj | ⟨-, rfl⟩ := getElem?_concat_eq_some_iff.1 hj
    · exact h.members j l k hj
    · exact h.members i l k hi
  next => exact h

theorem Share.adjust (h : ls.Share c) (i : Nat) (f : Logger → Logger) :
    (ls.adjust i f).Share c := by
  refine ⟨h.contexts, fun j l k hj => ?_⟩
  rw [Loggers.adjust, List.getElem?_modify, Option.map_eq_map, Option.map_eq_some_iff] at hj
  obtain ⟨⟨l', k'⟩, hfound, heq⟩ := hj
  obtain rfl : k' = k := by
    split at heq
    · exact (Prod.mk.inj heq).2
    · exact (Prod.mk.inj heq).2
  exact h.members j l' k' hfound

theorem Share.context_eq (h : ls.Share c) (hi : ls.context? i = some found) : found = c := by
  rw [context?, Option.bind_eq_some_iff] at hi
  obtain ⟨⟨l, k⟩, hmember, hcontext⟩ := hi
  rw [h.members i l k hmember, h.contexts] at hcontext
  exact (Option.some.inj hcontext).symm

theorem Share.context?_eq (h : ls.Share c) (hi : i < ls.members.length) :
    ls.context? i = some c := by
  have hmember : ls.members[i]? = some (ls.members[i].1, ls.members[i].2) :=
    List.getElem?_eq_getElem hi
  rw [context?, hmember, h.members i _ _ hmember, h.contexts]
  rfl

/-- What one logger does to its context, all of them see. -/
theorem Share.revise (h : ls.Share c) (hi : ls.context? i = some found) (f : Context → Context) :
    (ls.revise i f).Share (f c) := by
  rw [context?, Option.bind_eq_some_iff] at hi
  obtain ⟨⟨l, k⟩, hmember, -⟩ := hi
  obtain rfl := h.members i l k hmember
  rw [Loggers.revise, hmember]
  exact ⟨by rw [h.contexts]; rfl, h.members⟩

theorem Share.revise_eq_self (h : ls.Share c) (i : Nat) {f : Context → Context} (hf : f c = c) :
    ls.revise i f = ls := by
  rw [Loggers.revise]
  split
  next l k hmember =>
    obtain rfl := h.members i l k hmember
    obtain ⟨members, contexts⟩ := ls
    obtain rfl : contexts = [c] := h.contexts
    rw [List.modify_zero_cons, hf]
  next => rfl

end Loggers

/-- An act that somebody has done. -/
structure Effect where
  /-- Whether the run has done it. -/
  byRun : Bool
  act : Act
  /-- The context when it was done. -/
  found : Context

/-- A family of loggers among those who make calls of them. -/
structure Journal where
  loggers : Loggers
  /-- Calls of others: for each the number of its logger, and what it has still to do. -/
  calls : List (Nat × List Act) := []
  /-- What the run has still to do before it goes on. -/
  due : List Act := []
  past : List Effect := []

namespace Journal

/-- One logger, and nobody has made a call. -/
def starting (l : Logger) (c : Context) : Journal := { loggers := Loggers.add {} l c }

/-- Logger number `i` does an act; this is the context that it finds. -/
def effect (j : Journal) (byRun : Bool) (i : Nat) (a : Act) (found : Context) : Journal :=
  { j with
    loggers := j.loggers.revise i fun c => c.perform a
    past := j.past ++ [⟨byRun, a, found⟩] }

/-- What may happen next. Whatever the run does, it may do with any of the loggers. -/
inductive Step : Journal → Journal → Prop where
  | copy (j : Journal) (i : Nat) : Step j { j with loggers := j.loggers.copy i }
  | adjust (j : Journal) (i : Nat) (f : Logger → Logger) :
      Step j { j with loggers := j.loggers.adjust i f }
  /-- Somebody begins a call. -/
  | call (j : Journal) (i : Nat) (c : Call) : Step j { j with calls := j.calls ++ [(i, c.acts)] }
  /-- Somebody's call goes on. -/
  | act {j : Journal} {before after : List (Nat × List Act)} {i : Nat} {a : Act} {rest : List Act}
      {found : Context} (underWay : j.calls = before ++ (i, a :: rest) :: after)
      (context : j.loggers.context? i = some found) :
      Step j { j.effect false i a found with calls := before ++ (i, rest) :: after }
  /-- The run's call goes on. -/
  | own {j : Journal} {i : Nat} {a : Act} {rest : List Act} {found : Context}
      (due : j.due = a :: rest) (context : j.loggers.context? i = some found) :
      Step j { j.effect true i a found with due := rest }

/-- The acts done to the context so far. -/
def acts (past : List Effect) : List Act := past.map Effect.act

/-- The loggers share a context that knows the operation under way, and so did what each act has
found. -/
structure Sound (j : Journal) : Prop where
  shared : ∃ c, j.loggers.Share c ∧ c.Agrees (acts j.past)
  found : ∀ before e after, j.past = before ++ e :: after → e.found.Agrees (acts before)

variable {j j' : Journal} {i : Nat} {c found : Context}

theorem acts_concat {past : List Effect} {e : Effect} :
    acts (past ++ [e]) = acts past ++ [e.act] := by
  rw [acts, List.map_append]
  rfl

theorem sound_starting (l : Logger) (h : c.operation = none) : (starting l c).Sound where
  shared := ⟨c, Loggers.share_add l c, Context.agrees_nil h⟩
  found before e after hpast := by
    have hlength := congrArg List.length hpast
    simp [starting] at hlength

theorem Sound.agrees (h : j.Sound) (hi : j.loggers.context? i = some found) :
    found.Agrees (acts j.past) := by
  obtain ⟨c, hshare, hagrees⟩ := h.shared
  rw [hshare.context_eq hi]
  exact hagrees

theorem Sound.effect (h : j.Sound) (hi : j.loggers.context? i = some found) (byRun : Bool)
    (a : Act) : (j.effect byRun i a found).Sound := by
  obtain ⟨c, hshare, hagrees⟩ := h.shared
  constructor
  case shared =>
    refine ⟨c.perform a, hshare.revise hi _, ?_⟩
    change Context.Agrees _ (acts (j.past ++ [⟨byRun, a, found⟩]))
    rw [acts_concat]
    exact hagrees.perform a
  case found =>
    intro before e after hpast
    obtain ⟨rfl, rfl, -⟩ | ⟨after, hpast, -⟩ := concat_eq_append_cons_iff.1 hpast
    · exact h.agrees hi
    · exact h.found before e after hpast

theorem Sound.step (h : j.Sound) (hstep : Step j j') : j'.Sound := by
  cases hstep with
  | copy i =>
    obtain ⟨c, hshare, hagrees⟩ := h.shared
    exact ⟨⟨c, hshare.copy i, hagrees⟩, h.found⟩
  | adjust i f =>
    obtain ⟨c, hshare, hagrees⟩ := h.shared
    exact ⟨⟨c, hshare.adjust i f, hagrees⟩, h.found⟩
  | call i c => exact ⟨h.shared, h.found⟩
  | @act before after i a rest found underWay context =>
    have heffect := h.effect context false a
    exact ⟨heffect.shared, heffect.found⟩
  | @own i a rest found due context =>
    have heffect := h.effect context true a
    exact ⟨heffect.shared, heffect.found⟩

/-- The end of an operation that is over leaves the loggers as they are. -/
theorem Sound.finish_eq (h : j.Sound) {x : String} (hover : Over (acts j.past) x)
    (hdistinct : (starts (acts j.past)).Nodup) (i : Nat) :
    (j.loggers.revise i fun c => c.perform (.finish x)) = j.loggers := by
  obtain ⟨c, hshare, hagrees⟩ := h.shared
  exact hshare.revise_eq_self i (hagrees.finish_eq hover hdistinct)

end Journal

end LoopGauge.Log
