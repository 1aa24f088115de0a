import LoopGauge.Json.Value
import Mathlib.Data.List.Induction
import Mathlib.Data.List.Nodup
import Mathlib.Data.String.Basic

/-!
# Entries by their keys

Entries are put one after the other into a list that is sorted by key. A key is then found with what
was put in last for it, and the list depends on nothing else: entries of different keys may change
places.

## Main definitions

* `latest?`: the last value for a key.
* `Rearranged`: entries of different keys have changed places.

## Main statements

* `find?_foldl_insertKey`: what is found after entries were put in.
* `eq_of_find?`: sorted entries are what is found in them.
* `Rearranged.sortKeys_eq`: sorted, rearranged entries are the same.
-/

namespace LoopGauge.Json

variable {α : Type} {key : String} {a : α} {e : String × α} {entries es es' : List (String × α)}

@[simp]
theorem find?_nil : find? key ([] : List (String × α)) = none := rfl

theorem find?_cons (e : String × α) (es : List (String × α)) :
    find? key (e :: es) = if e.1 = key then some e.2 else find? key es := by
  unfold find?
  split
  next h => rw [List.find?_cons_of_pos (by simpa using h), Option.map_some]
  next h => rw [List.find?_cons_of_neg (by simpa using h)]

theorem find?_eq_none_of_notMem (h : key ∉ entries.map Prod.fst) : find? key entries = none := by
  induction entries with
  | nil => rfl
  | cons e es ih =>
    rw [List.map_cons, List.mem_cons, not_or] at h
    rw [find?_cons, if_neg (Ne.symm h.1), ih h.2]

theorem find?_eq_some_iff (h : (entries.map Prod.fst).Nodup) :
    find? key entries = some a ↔ (key, a) ∈ entries := by
  induction entries with
  | nil => simp
  | cons e es ih =>
    obtain ⟨k, b⟩ := e
    rw [List.map_cons, List.nodup_cons] at h
    rw [find?_cons, List.mem_cons, Prod.mk.injEq]
    by_cases hkey : k = key
    · subst hkey
      have hnot : (k, a) ∉ es := fun hmem => h.1 (List.mem_map.2 ⟨_, hmem, rfl⟩)
      simp [hnot, eq_comm]
    · simp [hkey, Ne.symm hkey, ih h.2]

/-- The entry that is put in is found under its key, and everything else as before. -/
theorem find?_insertKey (k : String) (a : α) (sorted : List (String × α)) :
    find? key (insertKey k a sorted) = if k = key then some a else find? key sorted := by
  induction sorted with
  | nil => exact find?_cons _ _
  | cons e es ih =>
    rw [insertKey]
    split
    next => exact find?_cons _ _
    next =>
      split
      next heq =>
        subst k
        rw [find?_cons, find?_cons]
        split <;> rfl
      next hne =>
        rw [find?_cons, ih, find?_cons]
        by_cases hkey : k = key
        · subst key
          rw [if_neg (Ne.symm hne), if_pos rfl, if_pos rfl]
        · rw [if_neg hkey, if_neg hkey]

/-- The last value for a key. -/
def latest? (key : String) (entries : List (String × α)) : Option α :=
  ((entries.filter (·.1 = key)).map Prod.snd).getLast?

theorem latest?_append :
    latest? key (es ++ es') = (latest? key es').or (latest? key es) := by
  rw [latest?, List.filter_append, List.map_append, List.getLast?_append]
  rfl

theorem latest?_singleton : latest? key [e] = if e.1 = key then some e.2 else none := by
  by_cases h : e.1 = key <;> simp [latest?, h]

theorem filter_key_of_nodup (h : (entries.map Prod.fst).Nodup) :
    entries.filter (·.1 = key) = ((find? key entries).map fun a => (key, a)).toList := by
  induction entries with
  | nil => rfl
  | cons e es ih =>
    rw [List.map_cons, List.nodup_cons] at h
    rw [find?_cons, List.filter_cons, ih h.2]
    by_cases hkey : e.1 = key
    · subst hkey
      rw [find?_eq_none_of_notMem h.1]
      simp
    · simp [hkey]

theorem latest?_of_nodup (h : (entries.map Prod.fst).Nodup) :
    latest? key entries = find? key entries := by
  rw [latest?, filter_key_of_nodup h]
  cases find? key entries <;> rfl

/-- A key is found with the last value that was put in for it, or with what it had before. -/
theorem find?_foldl_insertKey (entries sorted : List (String × α)) :
    find? key (entries.foldl (fun sorted e => insertKey e.1 e.2 sorted) sorted) =
      (latest? key entries).or (find? key sorted) := by
  induction entries using List.reverseRecOn with
  | nil => rfl
  | append_singleton es e ih =>
    rw [List.foldl_concat, find?_insertKey, ih, latest?_append, latest?_singleton]
    split <;> rfl

theorem sortKeys_append (es es' : List (String × α)) :
    sortKeys (es ++ es') = es'.foldl (fun sorted e => insertKey e.1 e.2 sorted) (sortKeys es) :=
  List.foldl_append ..

theorem find?_sortKeys_eq_latest? (entries : List (String × α)) :
    find? key (sortKeys entries) = latest? key entries := by
  rw [sortKeys, find?_foldl_insertKey, find?_nil, Option.or_none]

/-- Sorting entries of distinct keys keeps the value of every key. -/
theorem find?_sortKeys (h : (entries.map Prod.fst).Nodup) :
    find? key (sortKeys entries) = find? key entries := by
  rw [find?_sortKeys_eq_latest?, latest?_of_nodup h]

theorem insertKey_eq_append (h : ∀ e ∈ entries, e.1 < key) :
    insertKey key a entries = entries ++ [(key, a)] := by
  induction entries with
  | nil => rfl
  | cons e es ih =>
    rw [List.forall_mem_cons] at h
    rw [insertKey, if_neg (String.lt_asymm h.1), if_neg (String.ne_of_lt h.1).symm, ih h.2,
      List.cons_append]

/-- Entries in order stay as they are. -/
theorem sortKeys_eq_self (h : entries.Pairwise fun e e' => e.1 < e'.1) :
    sortKeys entries = entries := by
  -- Each entry belongs behind all that are sorted already.
  have hfold (sorted : List (String × α))
      (hsorted : (sorted ++ entries).Pairwise fun e e' => e.1 < e'.1) :
      entries.foldl (fun sorted e => insertKey e.1 e.2 sorted) sorted = sorted ++ entries := by
    clear h
    induction entries generalizing sorted with
    | nil => exact (List.append_nil sorted).symm
    | cons e es ih =>
      have hlt : ∀ e' ∈ sorted, e'.1 < e.1 := fun e' he' =>
        (List.pairwise_append.1 hsorted).2.2 e' he' e List.mem_cons_self
      rw [List.append_cons] at hsorted ⊢
      rw [List.foldl_cons, insertKey_eq_append hlt, ih _ hsorted]
  exact hfold [] h

theorem mem_insertKey (h : e ∈ insertKey key a entries) : e = (key, a) ∨ e ∈ entries := by
  induction entries with
  | nil => exact .inl (List.mem_singleton.1 h)
  | cons e' es ih =>
    rw [insertKey] at h
    split at h
    · exact List.mem_cons.1 h
    · split at h
      · exact (List.mem_cons.1 h).imp_right (List.mem_cons_of_mem e')
      · obtain rfl | h := List.mem_cons.1 h
        · exact .inr List.mem_cons_self
        · exact (ih h).imp_right (List.mem_cons_of_mem e')

theorem pairwise_insertKey (h : entries.Pairwise fun e e' => e.1 < e'.1) :
    (insertKey key a entries).Pairwise fun e e' => e.1 < e'.1 := by
  induction entries with
  | nil => exact List.pairwise_singleton ..
  | cons e' es ih =>
    obtain ⟨hhead, htail⟩ := List.pairwise_cons.1 h
    rw [insertKey]
    split
    next hlt =>
      refine List.pairwise_cons.2 ⟨List.forall_mem_cons.2 ⟨hlt, fun e he => ?_⟩, h⟩
      exact lt_trans hlt (hhead e he)
    next hnot =>
      split
      next heq =>
        subst heq
        exact List.pairwise_cons.2 ⟨hhead, htail⟩
      next hne =>
        refine List.pairwise_cons.2 ⟨fun e he => ?_, ih htail⟩
        obtain rfl | he := mem_insertKey he
        · exact lt_of_le_of_ne (not_lt.1 hnot) (Ne.symm hne)
        · exact hhead e he

theorem pairwise_foldl_insertKey {sorted : List (String × α)}
    (h : sorted.Pairwise fun e e' => e.1 < e'.1) (entries : List (String × α)) :
    (entries.foldl (fun sorted e => insertKey e.1 e.2 sorted) sorted).Pairwise
      fun e e' => e.1 < e'.1 := by
  induction entries generalizing sorted with
  | nil => exact h
  | cons e es ih => exact ih (pairwise_insertKey h)

theorem pairwise_sortKeys (entries : List (String × α)) :
    (sortKeys entries).Pairwise fun e e' => e.1 < e'.1 :=
  pairwise_foldl_insertKey .nil entries

theorem nodup_keys (h : entries.Pairwise fun e e' => e.1 < e'.1) :
    (entries.map Prod.fst).Nodup :=
  List.pairwise_map.2 (h.imp fun hlt => ne_of_lt hlt)

/-- Sorted entries are what is found in them. -/
theorem eq_of_find? (h : es.Pairwise fun e e' => e.1 < e'.1)
    (h' : es'.Pairwise fun e e' => e.1 < e'.1) (heq : ∀ key, find? key es = find? key es') :
    es = es' := by
  have hmem : ∀ e, e ∈ es ↔ e ∈ es' := by
    intro e
    rw [← find?_eq_some_iff (nodup_keys h), ← find?_eq_some_iff (nodup_keys h'), heq]
  have hperm : es.Perm es' :=
    (List.perm_ext_iff_of_nodup (nodup_keys h).of_map (nodup_keys h').of_map).2 hmem
  exact hperm.eq_of_pairwise (fun e e' _ _ hlt hlt' => absurd hlt' (lt_asymm hlt)) h h'

theorem find?_of_perm (hperm : es.Perm es') (h : (es.map Prod.fst).Nodup) :
    find? key es = find? key es' := by
  have h' : (es'.map Prod.fst).Nodup := (hperm.map Prod.fst).nodup_iff.1 h
  ext a
  rw [find?_eq_some_iff h, find?_eq_some_iff h', hperm.mem_iff]

theorem latest?_of_perm (hperm : es.Perm es') (h : (es.map Prod.fst).Nodup) :
    latest? key es = latest? key es' := by
  have h' : (es'.map Prod.fst).Nodup := (hperm.map Prod.fst).nodup_iff.1 h
  rw [latest?_of_nodup h, latest?_of_nodup h', find?_of_perm hperm h]

section Rearranged

variable {β γ : Type}

/-- Things that bring entries, or bring none, have changed places: those that bring none are in the
same order, and so are the entries of each key. -/
structure Rearranged (entries : β → List (String × α)) (bs bs' : List β) : Prop where
  rest : bs.filter (fun b => (entries b).isEmpty) = bs'.filter fun b => (entries b).isEmpty
  same : ∀ key, (bs.flatMap entries).filter (·.1 = key) = (bs'.flatMap entries).filter (·.1 = key)

variable {entries : β → List (String × α)} {bs bs' : List β}

/-- Entries of distinct keys may be in any order. -/
theorem Rearranged.of_perm
    (rest : bs.filter (fun b => (entries b).isEmpty) = bs'.filter fun b => (entries b).isEmpty)
    (hperm : (bs.flatMap entries).Perm (bs'.flatMap entries))
    (hdistinct : ((bs.flatMap entries).map Prod.fst).Nodup) : Rearranged entries bs bs' := by
  have hdistinct' := (hperm.map Prod.fst).nodup_iff.1 hdistinct
  refine ⟨rest, fun key => ?_⟩
  rw [filter_key_of_nodup hdistinct, filter_key_of_nodup hdistinct', find?_of_perm hperm hdistinct]

theorem Rearranged.sortKeys_eq (h : Rearranged entries bs bs') :
    sortKeys (bs.flatMap entries) = sortKeys (bs'.flatMap entries) := by
  refine eq_of_find? (pairwise_sortKeys _) (pairwise_sortKeys _) fun key => ?_
  rw [find?_sortKeys_eq_latest?, find?_sortKeys_eq_latest?, latest?, latest?, h.same key]

/-- What does not come with entries is the same, in the same order. -/
theorem Rearranged.filterMap_eq (h : Rearranged entries bs bs') {f : β → Option γ}
    (hf : ∀ b, entries b ≠ [] → f b = none) : bs.filterMap f = bs'.filterMap f := by
  have hrest (bs : List β) :
      bs.filterMap f = (bs.filter fun b => (entries b).isEmpty).filterMap f := by
    rw [List.filterMap_filter]
    congr 1
    funext b
    split
    next => rfl
    next hne => exact hf b (by simpa using hne)
  rw [hrest bs, hrest bs', h.rest]

end Rearranged

end LoopGauge.Json
