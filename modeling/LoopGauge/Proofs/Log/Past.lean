import LoopGauge.Proofs.Json.Keys
import LoopGauge.Proofs.Log.Journal

/-!
# The past of a family of loggers

There is one logger at first. Then loggers are copied, their decisions are changed, and something is
done to the context of one of them, in any order. The decisions are each logger's own. The context
is common to all, and is determined by what has been done to it.

## Main definitions

* `Turn`: one thing that is done with a family of loggers.
* `Loggers.Past`: a family, and everything that has been done with it.
* `contextAfter`: the context after some acts.

## Main statements

* `Loggers.Past.share`: all loggers have the context that the acts have made.
* `fields_contextAfter`, `session_contextAfter`, `agrees_contextAfter`: what is in it.
* `Loggers.Past.rearranged`: context fields of different keys may be added in any order.
-/

namespace LoopGauge.Log

open Json

/-! ## Contexts and acts -/

namespace Act

def fields : Act → List (String × Value)
  | addField key value => [(key, value)]
  | _ => []

def session? : Act → Option String
  | setSession id => some id
  | _ => none

end Act

/-- A new context after some acts. -/
def contextAfter (acts : List Act) : Context := acts.foldl Context.perform {}

section Contexts

variable {acts : List Act} {a : Act} {c : Context}

theorem contextAfter_concat : contextAfter (acts ++ [a]) = (contextAfter acts).perform a :=
  List.foldl_concat ..

namespace Context

attribute [ext] Context

theorem fields_perform :
    (c.perform a).fields = a.fields.foldl (fun fields e => insertKey e.1 e.2 fields) c.fields := by
  cases a with
  | finish id =>
    rw [perform, finish]
    split <;> rfl
  | _ => rfl

theorem session_perform : (c.perform a).session = a.session?.or c.session := by
  cases a with
  | finish id =>
    rw [perform, finish]
    split <;> rfl
  | _ => rfl

theorem operation_perform_congr {c' : Context} (h : c.operation = c'.operation) (a : Act) :
    (c.perform a).operation = (c'.perform a).operation := by
  cases a with
  | start => rfl
  | finish id =>
    simp only [perform, finish, h]
    split
    · rfl
    · exact h
  | setSession | addField | record => exact h

end Context

theorem fields_contextAfter (acts : List Act) :
    (contextAfter acts).fields = sortKeys (acts.flatMap Act.fields) := by
  induction acts using List.reverseRecOn with
  | nil => rfl
  | append_singleton acts a ih =>
    rw [contextAfter_concat, Context.fields_perform, ih, List.flatMap_append,
      List.flatMap_singleton, sortKeys_append]

theorem session_contextAfter (acts : List Act) :
    (contextAfter acts).session = (acts.filterMap Act.session?).getLast? := by
  induction acts using List.reverseRecOn with
  | nil => rfl
  | append_singleton acts a ih =>
    rw [contextAfter_concat, Context.session_perform, ih, getLast?_filterMap_concat]

theorem agrees_contextAfter (acts : List Act) : (contextAfter acts).Agrees acts := by
  induction acts using List.reverseRecOn with
  | nil => exact Context.agrees_nil rfl
  | append_singleton acts a ih =>
    rw [contextAfter_concat]
    exact ih.perform a

theorem operation_contextAfter (acts : List Act) :
    (contextAfter acts).operation =
      (contextAfter (acts.filter fun a => a.fields.isEmpty)).operation := by
  induction acts using List.reverseRecOn with
  | nil => rfl
  | append_singleton acts a ih =>
    -- An act finds the same operation in both contexts, and does not look at the fields.
    rw [contextAfter_concat, List.filter_append]
    cases a with
    | addField =>
      rw [List.filter_cons_of_neg (by simp [Act.fields]), List.filter_nil, List.append_nil]
      exact ih
    | _ =>
      rw [List.filter_cons_of_pos rfl, List.filter_nil, contextAfter_concat]
      exact Context.operation_perform_congr ih _

/-- Fields of different keys may be added in any order. -/
theorem contextAfter_rearranged {acts' : List Act} (h : Rearranged Act.fields acts acts') :
    contextAfter acts = contextAfter acts' := by
  have hsession := h.filterMap_eq (f := Act.session?) fun a ha => by
    cases a with
    | setSession => exact absurd rfl ha
    | _ => rfl
  ext1
  case session => rw [session_contextAfter, session_contextAfter, hsession]
  case operation => rw [operation_contextAfter, operation_contextAfter acts', h.rest]
  case fields => rw [fields_contextAfter, fields_contextAfter, h.sortKeys_eq]

end Contexts

/-! ## Families of loggers -/

/-- A decision that a logger may be told to change. -/
inductive Choice where
  | level (least : Level)
  | format (format : Format)
  | colour (useColour : Bool)

/-- One thing that is done with a family of loggers. -/
inductive Turn where
  | copy (i : Nat)
  | choose (i : Nat) (x : Choice)
  /-- Something is done to the context of a logger. -/
  | act (i : Nat) (a : Act)

namespace Logger

def choose (l : Logger) : Choice → Logger
  | .level least => { l with minLevel := least }
  | .format format => { l with format := format }
  | .colour useColour => { l with useColour := useColour }

@[simp]
theorem name_choose (l : Logger) (x : Choice) : (l.choose x).name = l.name := by
  cases x <;> rfl

@[simp]
theorem errorOnly_choose (l : Logger) (x : Choice) : (l.choose x).errorOnly = l.errorOnly := by
  cases x <;> rfl

end Logger

namespace Turn

def member : Turn → Nat
  | copy i | choose i _ | act i _ => i

def act? : Turn → Option Act
  | act _ a => some a
  | _ => none

def fields : Turn → List (String × Value)
  | act _ a => a.fields
  | _ => []

/-- What has been done to contexts, by whichever logger. -/
def acts (turns : List Turn) : List Act := turns.filterMap act?

variable {turns turns' : List Turn}

theorem acts_concat_copy (i : Nat) : acts (turns ++ [copy i]) = acts turns :=
  List.filterMap_append.trans (List.append_nil _)

theorem acts_concat_choose (i : Nat) (x : Choice) : acts (turns ++ [choose i x]) = acts turns :=
  List.filterMap_append.trans (List.append_nil _)

theorem acts_concat_act (i : Nat) (a : Act) : acts (turns ++ [act i a]) = acts turns ++ [a] :=
  List.filterMap_append

theorem flatMap_fields_acts : (acts turns).flatMap Act.fields = turns.flatMap fields := by
  induction turns with
  | nil => rfl
  | cons t turns ih =>
    rw [List.flatMap_cons, ← ih, acts, List.filterMap_cons]
    cases t <;> rfl

theorem filter_acts :
    (acts turns).filter (fun a => a.fields.isEmpty) =
      acts (turns.filter fun t => t.fields.isEmpty) := by
  rw [acts, acts, List.filter_filterMap, List.filterMap_filter]
  congr 1
  funext t
  cases t <;> rfl

theorem acts_rearranged (h : Rearranged fields turns turns') :
    Rearranged Act.fields (acts turns) (acts turns') where
  rest := by rw [filter_acts, filter_acts, h.rest]
  same key := by rw [flatMap_fields_acts, flatMap_fields_acts, h.same key]

end Turn

namespace Loggers

variable {first l l' : Logger} {ls ls' : Loggers} {turns turns' : List Turn} {i j : Nat}

def turn (ls : Loggers) : Turn → Loggers
  | .copy i => ls.copy i
  | .choose i x => ls.adjust i fun l => l.choose x
  | .act i a => ls.revise i fun c => c.perform a

/-- A family that has come from one logger, and everything that has been done with it, in order. -/
inductive Past (first : Logger) : List Turn → Loggers → Prop where
  | new : Past first [] (Loggers.add {} first {})
  | turn {turns : List Turn} {ls : Loggers} (past : Past first turns ls) (t : Turn)
      (known : t.member < ls.members.length) : Past first (turns ++ [t]) (ls.turn t)

/-- Whoever does something to the context, all loggers have the outcome. -/
theorem Past.share (past : Past first turns ls) : ls.Share (contextAfter (Turn.acts turns)) := by
  induction past with
  | new => exact share_add first {}
  | @turn turns ls past t known ih =>
    cases t with
    | copy i =>
      rw [Turn.acts_concat_copy]
      exact ih.copy i
    | choose i x =>
      rw [Turn.acts_concat_choose]
      exact ih.adjust i fun l => l.choose x
    | act i a =>
      rw [Turn.acts_concat_act, contextAfter_concat]
      exact ih.revise (ih.context?_eq known) _

theorem logger?_copy (h : (ls.copy i).logger? j = some l) : ∃ k, ls.logger? k = some l := by
  rw [copy] at h
  split at h
  next member hi =>
    rw [logger?, Option.map_eq_some_iff] at h
    obtain ⟨found, hfound, rfl⟩ := h
    obtain hj | ⟨-, rfl⟩ := getElem?_concat_eq_some_iff.1 hfound
    · exact ⟨j, by rw [logger?, hj, Option.map_some]⟩
    · exact ⟨i, by rw [logger?, hi, Option.map_some]⟩
  next => exact ⟨j, h⟩

theorem logger?_adjust (ls : Loggers) (i j : Nat) (f : Logger → Logger) :
    (ls.adjust i f).logger? j = if i = j then (ls.logger? j).map f else ls.logger? j := by
  rw [adjust, logger?, logger?, List.getElem?_modify]
  cases ls.members[j]? <;> split <;> rfl

theorem members_revise (ls : Loggers) (i : Nat) (f : Context → Context) :
    (ls.revise i f).members = ls.members := by
  rw [revise]
  split <;> rfl

/-- No logger changes its name, nor what it keeps from standard output. -/
theorem Past.alike (past : Past first turns ls) (hl : ls.logger? i = some l) :
    l.name = first.name ∧ l.errorOnly = first.errorOnly := by
  induction past generalizing i l with
  | new =>
    obtain ⟨⟨found, k⟩, hfound, rfl⟩ := Option.map_eq_some_iff.1 hl
    obtain hnone | ⟨-, heq⟩ := getElem?_concat_eq_some_iff.1 hfound
    · cases hnone
    · obtain ⟨rfl, -⟩ := Prod.mk.inj heq
      exact ⟨rfl, rfl⟩
  | @turn turns ls past t known ih =>
    cases t with
    | copy k =>
      obtain ⟨j, hl⟩ := logger?_copy hl
      exact ih hl
    | choose k x =>
      rw [Loggers.turn, logger?_adjust] at hl
      split at hl
      next =>
        obtain ⟨before, hbefore, rfl⟩ := Option.map_eq_some_iff.1 hl
        rw [Logger.name_choose, Logger.errorOnly_choose]
        exact ih hbefore
      next => exact ih hl
    | act k a =>
      rw [Loggers.turn, logger?, members_revise] at hl
      exact ih hl

theorem turn_members_congr (h : ls.members = ls'.members) (t : Turn) :
    (ls.turn t).members = (ls'.turn t).members := by
  cases t with
  | copy i =>
    rw [turn, turn, copy, copy, h]
    split <;> simp [h]
  | choose i x => simp only [turn, adjust, h]
  | act i a => simp only [turn, members_revise, h]

theorem foldl_turn_members (h : ls.members = ls'.members) (turns : List Turn) :
    (turns.foldl turn ls).members =
      ((turns.filter fun t => t.fields.isEmpty).foldl turn ls').members := by
  induction turns generalizing ls ls' with
  | nil => exact h
  | cons t turns ih =>
    rw [List.filter_cons, List.foldl_cons]
    split
    next => exact ih (turn_members_congr h t)
    next ht =>
      -- A turn that brings fields is an act, and leaves the members as they are.
      refine ih (Eq.trans ?_ h)
      cases t with
      | act i a => exact members_revise ls i _
      | _ => exact absurd rfl ht

theorem Past.eq_foldl (past : Past first turns ls) :
    ls = turns.foldl Loggers.turn (Loggers.add {} first {}) := by
  induction past with
  | new => rfl
  | turn past t known ih => rw [List.foldl_concat, ← ih]

/-- Context fields of different keys may be added in any order, and with any of the loggers. -/
theorem Past.rearranged (past : Past first turns ls) (past' : Past first turns' ls')
    (h : Rearranged Turn.fields turns turns') : ls = ls' := by
  have hmembers : ls.members = ls'.members := by
    rw [past.eq_foldl, past'.eq_foldl, foldl_turn_members rfl turns, foldl_turn_members rfl turns',
      h.rest]
  have hcontexts : ls.contexts = ls'.contexts := by
    rw [past.share.contexts, past'.share.contexts,
      contextAfter_rearranged (Turn.acts_rearranged h)]
  obtain ⟨members, contexts⟩ := ls
  obtain ⟨members', contexts'⟩ := ls'
  rw [mk.injEq]
  exact ⟨hmembers, hcontexts⟩

end Loggers

end LoopGauge.Log
