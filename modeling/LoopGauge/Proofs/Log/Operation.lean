import LoopGauge.Log.Call
import LoopGauge.Proofs.History
import Mathlib.Data.List.Nodup

/-!
# The operation under way

Acts are done to one context, in any order. The context knows an operation if and only if it is the
one started last and its end has not come since, so nothing but its own end or a later start makes
the context forget it.

## Main definitions

* `UnderWay`: the operation started last, if its end has not come.
* `Over`: operations that cannot be under way: unknown ones, and ones that have ended or are older.
* `Context.Agrees`: the context knows the operation under way.

## Main statements

* `Context.Agrees.perform`: one act after the other, it goes on to agree.
* `Context.Agrees.finish_eq`: the end of an operation that is over changes nothing.
-/

namespace LoopGauge.Log

/-- The operation that an act starts. -/
def Act.started : Act → Option String
  | .start id => some id
  | _ => none

/-- The operations that were started, in order. -/
def starts (acts : List Act) : List String := acts.filterMap Act.started

/-- An operation has been started, no other start has come since, and neither has its end. -/
def UnderWay (acts : List Act) (x : String) : Prop :=
  ∃ before since, acts = before ++ .start x :: since ∧ (∀ y, .start y ∉ since) ∧ .finish x ∉ since

/-- Operations whose end has nothing to end. -/
inductive Over (acts : List Act) (x : String) : Prop where
  | unknown (never : .start x ∉ acts)
  | ended {before since : List Act} (split : acts = before ++ .start x :: since)
      (again : .finish x ∈ since)
  | older {before since : List Act} {y : String} (split : acts = before ++ .start x :: since)
      (later : .start y ∈ since)

/-- The context knows the operation under way, and no other. -/
def Context.Agrees (c : Context) (acts : List Act) : Prop :=
  ∀ x, c.operation = some x ↔ UnderWay acts x

variable {acts before since : List Act} {a : Act} {c : Context} {x y : String}

theorem mem_starts : x ∈ starts acts ↔ .start x ∈ acts := by
  rw [starts, List.mem_filterMap]
  constructor
  · rintro ⟨a, ha, hstarted⟩
    cases a with
    | start id =>
      obtain rfl := Option.some.inj hstarted
      exact ha
    | _ => cases hstarted
  · intro h
    exact ⟨_, h, rfl⟩

theorem starts_append_start : starts (before ++ .start x :: since) =
    starts before ++ x :: starts since := by
  rw [starts, List.filterMap_append]
  rfl

theorem not_underWay_nil : ¬UnderWay [] x := by
  rintro ⟨before, since, h, -⟩
  simp at h

/-- An act starts an operation, or one that is under way goes on unless the act ends it. -/
theorem underWay_concat :
    UnderWay (acts ++ [a]) x ↔
      a = .start x ∨ UnderWay acts x ∧ a.started = none ∧ a ≠ .finish x := by
  constructor
  · rintro ⟨before, since, h, hstart, hfinish⟩
    obtain ⟨rfl, rfl, -⟩ | ⟨since, rfl, rfl⟩ := concat_eq_append_cons_iff.1 h
    · exact .inl rfl
    · simp only [List.mem_append, List.mem_singleton, not_or] at hstart hfinish
      refine .inr ⟨⟨before, since, rfl, fun y => (hstart y).1, hfinish.1⟩, ?_, ?_⟩
      · cases a with
        | start y => exact absurd rfl (hstart y).2
        | _ => rfl
      · exact Ne.symm hfinish.2
  · rintro (rfl | ⟨⟨before, since, rfl, hstart, hfinish⟩, hstarted, hne⟩)
    · exact ⟨acts, [], rfl, by simp, by simp⟩
    · refine ⟨before, since ++ [a], by simp, fun y => ?_, ?_⟩
      · rw [List.mem_append, List.mem_singleton, not_or]
        refine ⟨hstart y, ?_⟩
        rintro rfl
        cases hstarted
      · rw [List.mem_append, List.mem_singleton, not_or]
        exact ⟨hfinish, Ne.symm hne⟩

theorem start_notMem_of_nodup (h : (starts (before ++ .start x :: since)).Nodup) :
    .start x ∉ before ∧ .start x ∉ since := by
  rw [starts_append_start, List.nodup_middle, List.nodup_cons, List.mem_append, not_or] at h
  exact ⟨mt mem_starts.2 h.1.1, mt mem_starts.2 h.1.2⟩

/-- If no two starts share an identifier, an operation has been started at one place only. -/
theorem UnderWay.of_split (h : UnderWay (before ++ .start x :: since) x)
    (hdistinct : (starts (before ++ .start x :: since)).Nodup) :
    (∀ y, .start y ∉ since) ∧ .finish x ∉ since := by
  obtain ⟨before', since', heq, hstart, hfinish⟩ := h
  obtain ⟨hbefore, hsince⟩ := start_notMem_of_nodup hdistinct
  obtain ⟨-, -, rfl⟩ := (List.append_cons_inj_of_notMem hbefore hsince).1 heq
  exact ⟨hstart, hfinish⟩

theorem Over.not_underWay (h : Over acts x) (hdistinct : (starts acts).Nodup) :
    ¬UnderWay acts x := by
  intro hunder
  cases h with
  | unknown never =>
    obtain ⟨before, since, rfl, -⟩ := hunder
    exact never (by simp)
  | ended split again =>
    subst split
    exact (hunder.of_split hdistinct).2 again
  | older split later =>
    subst split
    exact (hunder.of_split hdistinct).1 _ later

namespace Context

@[simp]
theorem operation_withSession (id : String) : (c.withSession id).operation = c.operation := rfl

@[simp]
theorem operation_withField (key : String) (value : Json.Value) :
    (c.withField key value).operation = c.operation := rfl

theorem operation_finish_eq_some_iff :
    (c.finish y).operation = some x ↔ c.operation = some x ∧ x ≠ y := by
  rw [finish]
  by_cases hy : c.operation = some y
  · rw [if_pos hy, hy]
    simp only [reduceCtorEq, Option.some.injEq, false_iff, not_and, not_not]
    exact Eq.symm
  · rw [if_neg hy]
    refine (and_iff_left_of_imp ?_).symm
    rintro hx rfl
    exact hy hx

theorem agrees_nil (h : c.operation = none) : c.Agrees [] := by
  intro x
  rw [h]
  exact iff_of_false nofun not_underWay_nil

/-- One act after the other, the context goes on to know the operation under way. -/
theorem Agrees.perform (h : c.Agrees acts) (a : Act) : (c.perform a).Agrees (acts ++ [a]) := by
  intro x
  rw [underWay_concat]
  cases a with
  | start id => simp [Context.perform, start, Act.started, eq_comm]
  | finish id =>
    rw [Context.perform, operation_finish_eq_some_iff, h x]
    simp [Act.started, eq_comm]
  | setSession id => simp [Context.perform, Act.started, h x]
  | addField key value => simp [Context.perform, Act.started, h x]
  | record d => simp [Context.perform, Act.started, h x]

/-- The end of an operation that is over neither clears nor replaces what the context knows. -/
theorem Agrees.finish_eq (h : c.Agrees acts) (hover : Over acts x)
    (hdistinct : (starts acts).Nodup) : c.finish x = c := by
  have hother : c.operation ≠ some x := mt (h x).1 (hover.not_underWay hdistinct)
  rw [finish, if_neg hother]

/-- After a start, if neither another start nor its end has come, a record finds the operation. -/
theorem Agrees.operation_eq (h : c.Agrees (before ++ .start x :: since))
    (hstart : ∀ y, .start y ∉ since) (hfinish : .finish x ∉ since) : c.operation = some x :=
  (h x).2 ⟨before, since, rfl, hstart, hfinish⟩

end Context

end LoopGauge.Log
