import LoopGauge.Engine.StopFlags
import LoopGauge.Proofs.History
import Mathlib.Logic.Relation

/-!
# Families of stop flags

Flags are made, copied and raised in any order. Copying connects flags to families, and a flag is
raised if and only if some member of its family has been, no matter whether the copies were made
before that or after.

## Main definitions

* `StopFlags.Deed`, `StopFlags.Possible`: what is done to flags that exist.
* `StopFlags.Family`: flags that copying connects.
* `StopFlags.Sound`: the flags agree with what was done.

## Main statements

* `StopFlags.Possible.sound`: they do after all deeds.
* `StopFlags.family_stops_together`: when a flag is raised.
-/

namespace LoopGauge.Engine.StopFlags

open Relation (EqvGen)

/-- What is done to flags, which are numbered in the order in which they are made. -/
inductive Deed where
  | create
  | copy (i : Nat)
  | stop (i : Nat)
deriving DecidableEq, Repr

/-- Whether a deed makes a flag. -/
def Deed.makes : Deed → Bool
  | create | copy _ => true
  | stop _ => false

def perform (f : StopFlags) : Deed → StopFlags
  | .create => f.create
  | .copy i => f.copy i
  | .stop i => f.stop i

/-- The flags after deeds. -/
def after (deeds : List Deed) : StopFlags := deeds.foldl perform {}

/-- How many flags have been made. -/
def made (deeds : List Deed) : Nat := deeds.countP Deed.makes

/-- Deeds to flags that exist at that time. -/
inductive Possible : List Deed → Prop where
  | nil : Possible []
  | create {deeds : List Deed} (before : Possible deeds) : Possible (deeds ++ [.create])
  | copy {deeds : List Deed} {i : Nat} (before : Possible deeds) (known : i < made deeds) :
      Possible (deeds ++ [.copy i])
  | stop {deeds : List Deed} {i : Nat} (before : Possible deeds) (known : i < made deeds) :
      Possible (deeds ++ [.stop i])

/-- Flag number `j` has been made as a copy of flag number `i`. -/
def CopyOf (deeds : List Deed) (i j : Nat) : Prop :=
  ∃ before later, deeds = before ++ .copy i :: later ∧ made before = j

/-- Flags that copying connects, in either direction. -/
def Family (deeds : List Deed) : Nat → Nat → Prop := EqvGen (CopyOf deeds)

variable {deeds more : List Deed} {d : Deed} {f : StopFlags} {i j : Nat}

theorem after_concat : after (deeds ++ [d]) = (after deeds).perform d := by
  rw [after, List.foldl_append]
  rfl

theorem made_concat : made (deeds ++ [d]) = made deeds + if d.makes then 1 else 0 := by
  rw [made, List.countP_append, List.countP_singleton]
  rfl

theorem made_le_append : made deeds ≤ made (deeds ++ more) := by
  rw [made, made, List.countP_append]
  omega

theorem CopyOf.append (h : CopyOf deeds i j) : CopyOf (deeds ++ more) i j := by
  obtain ⟨before, later, rfl, hmade⟩ := h
  exact ⟨before, later ++ more, by simp, hmade⟩

theorem copyOf_concat :
    CopyOf (deeds ++ [d]) i j ↔ CopyOf deeds i j ∨ d = .copy i ∧ made deeds = j := by
  constructor
  · rintro ⟨before, later, hdeeds, hmade⟩
    obtain ⟨rfl, rfl, -⟩ | ⟨later, rfl, -⟩ := concat_eq_append_cons_iff.1 hdeeds
    · exact .inr ⟨rfl, hmade⟩
    · exact .inl ⟨before, later, rfl, hmade⟩
  · rintro (h | ⟨rfl, hmade⟩)
    · exact h.append
    · exact ⟨deeds, [], rfl, hmade⟩

theorem Family.append (h : Family deeds i j) : Family (deeds ++ more) i j :=
  EqvGen.mono (fun _ _ => CopyOf.append) _ _ h

/-- Without a copy the families stay as they are. -/
theorem family_concat_iff (hd : ∀ k, d ≠ .copy k) :
    Family (deeds ++ [d]) i j ↔ Family deeds i j := by
  have hsame : CopyOf (deeds ++ [d]) = CopyOf deeds := by
    funext a b
    rw [copyOf_concat, eq_iff_iff, or_iff_left fun h => hd a h.1]
  rw [Family, Family, hsame]

/-- The flags agree with what was done: each family has one state of its own, which is raised if a
member has been. -/
structure Sound (deeds : List Deed) (f : StopFlags) : Prop where
  length : f.owners.length = made deeds
  bounded : ∀ (i owner : Nat), f.owners[i]? = some owner → owner < f.raised.length
  /-- A copy belongs to the same state. -/
  copies : ∀ i j, CopyOf deeds i j → ∃ owner, f.owners[i]? = some owner ∧ f.owners[j]? = some owner
  family : ∀ (i j owner : Nat), f.owners[i]? = some owner → f.owners[j]? = some owner →
    Family deeds i j
  stopped : ∀ i, .stop i ∈ deeds → i < made deeds
  raised : ∀ owner : Nat, f.raised[owner]? = some true ↔
    ∃ i : Nat, .stop i ∈ deeds ∧ f.owners[i]? = some owner

namespace Sound

theorem getElem?_owners (h : Sound deeds f) (hi : i < made deeds) :
    ∃ owner, f.owners[i]? = some owner := by
  rw [← h.length] at hi
  exact ⟨_, List.getElem?_eq_getElem hi⟩

/-- Nobody has stopped a flag that is just being made. -/
theorem stop_iff_of_makes (h : Sound deeds f) (hd : ∀ k, d ≠ .stop k) {owner last : Nat} :
    (∃ i : Nat, .stop i ∈ deeds ++ [d] ∧ (f.owners ++ [last])[i]? = some owner) ↔
      ∃ i : Nat, .stop i ∈ deeds ∧ f.owners[i]? = some owner := by
  refine exists_congr fun i => ?_
  rw [List.mem_append, List.mem_singleton, or_iff_left (Ne.symm (hd i)),
    getElem?_concat_eq_some_iff]
  refine and_congr_right fun hstop => or_iff_left fun hlast => ?_
  have hlt := h.stopped i hstop
  rw [← h.length] at hlt
  omega

theorem stopped_concat (h : Sound deeds f) (hd : ∀ k, d = .stop k → k < made deeds) :
    ∀ i, .stop i ∈ deeds ++ [d] → i < made (deeds ++ [d]) := by
  intro i hi
  refine Nat.lt_of_lt_of_le ?_ made_le_append
  obtain hi | hi := List.mem_append.1 hi
  · exact h.stopped i hi
  · exact hd i (List.mem_singleton.1 hi).symm

theorem create (h : Sound deeds f) : Sound (deeds ++ [.create]) f.create where
  length := by rw [StopFlags.create, List.length_append, h.length, made_concat]; rfl
  bounded i owner hi := by
    rw [StopFlags.create, List.length_append]
    obtain hi | ⟨-, rfl⟩ := getElem?_concat_eq_some_iff.1 hi
    · exact Nat.lt_succ_of_lt (h.bounded i owner hi)
    · exact Nat.lt_succ_self _
  copies i j hcopy := by
    rw [copyOf_concat, or_iff_left fun heq => nomatch heq.1] at hcopy
    obtain ⟨owner, hi, hj⟩ := h.copies i j hcopy
    exact ⟨owner, getElem?_concat_eq_some_iff.2 (.inl hi), getElem?_concat_eq_some_iff.2 (.inl hj)⟩
  family i j owner hi hj := by
    obtain hi | ⟨rfl, rfl⟩ := getElem?_concat_eq_some_iff.1 hi
    · obtain hj | ⟨rfl, rfl⟩ := getElem?_concat_eq_some_iff.1 hj
      · exact (h.family i j owner hi hj).append
      · exact absurd (h.bounded i _ hi) (Nat.lt_irrefl _)
    · obtain hj | ⟨rfl, -⟩ := getElem?_concat_eq_some_iff.1 hj
      · exact absurd (h.bounded j _ hj) (Nat.lt_irrefl _)
      · exact .refl _
  stopped := h.stopped_concat nofun
  raised owner := by
    rw [StopFlags.create, h.stop_iff_of_makes (d := .create) nofun, ← h.raised,
      getElem?_concat_eq_some_iff, or_iff_left (by simp)]

theorem copy (h : Sound deeds f) (hi : i < made deeds) : Sound (deeds ++ [.copy i]) (f.copy i) := by
  obtain ⟨shared, hshared⟩ := h.getElem?_owners hi
  have hcopy : f.copy i = { f with owners := f.owners ++ [shared] } := by
    rw [StopFlags.copy, hshared]
  -- Whoever has the state of the copied flag is of its family, and so is the copy.
  have hjoin : ∀ a, f.owners[a]? = some shared → Family (deeds ++ [.copy i]) a f.owners.length :=
    fun a ha => .trans _ _ _ (h.family a i shared ha hshared).append
      (.rel _ _ (copyOf_concat.2 (.inr ⟨rfl, h.length.symm⟩)))
  rw [hcopy]
  constructor
  case length => rw [List.length_append, h.length, made_concat]; rfl
  case bounded =>
    intro a owner ha
    obtain ha | ⟨-, rfl⟩ := getElem?_concat_eq_some_iff.1 ha
    · exact h.bounded a owner ha
    · exact h.bounded i _ hshared
  case copies =>
    intro a b hab
    obtain hab | ⟨heq, hb⟩ := copyOf_concat.1 hab
    · obtain ⟨owner, ha, hb⟩ := h.copies a b hab
      exact ⟨owner, getElem?_concat_eq_some_iff.2 (.inl ha),
        getElem?_concat_eq_some_iff.2 (.inl hb)⟩
    · obtain rfl := Deed.copy.inj heq
      exact ⟨shared, getElem?_concat_eq_some_iff.2 (.inl hshared),
        getElem?_concat_eq_some_iff.2 (.inr ⟨by rw [h.length, hb], rfl⟩)⟩
  case family =>
    intro a b owner ha hb
    obtain ha | ⟨rfl, rfl⟩ := getElem?_concat_eq_some_iff.1 ha
    · obtain hb | ⟨rfl, rfl⟩ := getElem?_concat_eq_some_iff.1 hb
      · exact (h.family a b owner ha hb).append
      · exact hjoin a ha
    · obtain hb | ⟨rfl, -⟩ := getElem?_concat_eq_some_iff.1 hb
      · exact .symm _ _ (hjoin b hb)
      · exact .refl _
  case stopped => exact h.stopped_concat nofun
  case raised =>
    intro owner
    rw [h.stop_iff_of_makes (d := .copy i) nofun, ← h.raised]

theorem stop (h : Sound deeds f) (hi : i < made deeds) : Sound (deeds ++ [.stop i]) (f.stop i) := by
  obtain ⟨shared, hshared⟩ := h.getElem?_owners hi
  have hstop : f.stop i = { f with raised := f.raised.set shared true } := by
    rw [StopFlags.stop, hshared]
  have hlt := h.bounded i shared hshared
  rw [hstop]
  constructor
  case length => rw [made_concat]; exact h.length
  case bounded =>
    intro a owner ha
    rw [List.length_set]
    exact h.bounded a owner ha
  case copies =>
    intro a b hab
    rw [copyOf_concat, or_iff_left fun heq => nomatch heq.1] at hab
    exact h.copies a b hab
  case family => exact fun a b owner ha hb => (h.family a b owner ha hb).append
  case stopped => exact h.stopped_concat fun k hk => Deed.stop.inj hk ▸ hi
  case raised =>
    intro owner
    by_cases howner : owner = shared
    · subst howner
      rw [List.getElem?_set_self hlt]
      exact iff_of_true rfl ⟨i, by simp, hshared⟩
    · rw [List.getElem?_set_ne (Ne.symm howner), h.raised]
      refine exists_congr fun a => ?_
      rw [List.mem_append, List.mem_singleton]
      constructor
      · rintro ⟨ha, hfound⟩
        exact ⟨.inl ha, hfound⟩
      · rintro ⟨ha | ha, hfound⟩
        · exact ⟨ha, hfound⟩
        · obtain rfl := Deed.stop.inj ha
          exact absurd (Option.some.inj (hfound.symm.trans hshared)) howner

/-- The members of a family have one state. -/
theorem owners_eq (h : Sound deeds f) (hfamily : Family deeds i j) :
    f.owners[i]? = f.owners[j]? := by
  induction hfamily with
  | rel a b hab =>
    obtain ⟨owner, ha, hb⟩ := h.copies a b hab
    rw [ha, hb]
  | refl a => rfl
  | symm a b _ ih => exact ih.symm
  | trans a b c _ _ ihab ihbc => exact ihab.trans ihbc

theorem isStopped_iff (h : Sound deeds f) (hj : j < made deeds) :
    f.isStopped j ↔ ∃ i, .stop i ∈ deeds ∧ Family deeds i j := by
  obtain ⟨owner, howner⟩ := h.getElem?_owners hj
  have hstate : f.isStopped j ↔ f.raised[owner]? = some true := by
    rw [isStopped, howner]
    cases hraised : f.raised[owner]? <;> simp [hraised]
  rw [hstate, h.raised]
  refine exists_congr fun i => and_congr_right fun _ => ⟨fun hi => h.family i j owner hi howner, ?_⟩
  intro hfamily
  rw [h.owners_eq hfamily, howner]

end Sound

theorem Possible.sound (h : Possible deeds) : Sound deeds (after deeds) := by
  induction h with
  | nil =>
    refine ⟨rfl, nofun, ?_, nofun, nofun, by simp [after]⟩
    rintro i j ⟨before, later, hnil, -⟩
    simp at hnil
  | create _ ih => exact after_concat ▸ ih.create
  | copy _ hi ih => exact after_concat ▸ ih.copy hi
  | stop _ hi ih => exact after_concat ▸ ih.stop hi

theorem lt_made_of_isStopped (h : Sound deeds f) (hj : f.isStopped j) : j < made deeds := by
  rw [← h.length]
  refine Nat.lt_of_not_le fun hge => ?_
  rw [isStopped, List.getElem?_eq_none hge] at hj
  cases hj

/-- **A flag is raised exactly if a member of its family has been.** Whatever is done to flags, in
whatever order: copies share a stop whether they were made before it or after, a flag once raised
stays so, and a stop leaves all flags of other families as they are. -/
theorem family_stops_together (deeds : List Deed) (h : Possible deeds) :
    (∀ j < made deeds, (after deeds).isStopped j ↔ ∃ i, .stop i ∈ deeds ∧ Family deeds i j) ∧
      (∀ more, Possible (deeds ++ more) → ∀ j, (after deeds).isStopped j →
        (after (deeds ++ more)).isStopped j) ∧
      ∀ i j, i < made deeds → j < made deeds → ¬Family deeds i j →
        (after (deeds ++ [.stop i])).isStopped j = (after deeds).isStopped j := by
  have hnow := h.sound
  refine ⟨fun j hj => hnow.isStopped_iff hj, fun more hmore j hj => ?_, fun i j hi hj hapart => ?_⟩
  · have hmade := lt_made_of_isStopped hnow hj
    obtain ⟨i, hi, hfamily⟩ := (hnow.isStopped_iff hmade).1 hj
    rw [hmore.sound.isStopped_iff (Nat.lt_of_lt_of_le hmade made_le_append)]
    exact ⟨i, List.mem_append_left _ hi, hfamily.append⟩
  · rw [Bool.eq_iff_iff, (h.stop hi).sound.isStopped_iff (Nat.lt_of_lt_of_le hj made_le_append),
      hnow.isStopped_iff hj]
    refine exists_congr fun k => ?_
    rw [family_concat_iff (d := .stop i) nofun, List.mem_append, List.mem_singleton]
    refine and_congr_left fun hfamily => or_iff_left fun hk => ?_
    exact hapart (Deed.stop.inj hk ▸ hfamily)

/-- Two families; the copy of a copy is made after the stop and is raised nevertheless. -/
theorem family_stops_together_two :
    ∃ deeds, deeds = [.create, .create, .copy 0, .stop 0, .copy 2] ∧ Possible deeds ∧
      (after deeds).isStopped 3 ∧ ¬(after deeds).isStopped 1 ∧
      (after (deeds ++ [.create])).isStopped 3 := by
  have hfirst : Possible [.create, .create, .copy 0, .stop 0] :=
    .stop (.copy (.create (.create .nil)) (by decide)) (by decide)
  have hall : Possible [.create, .create, .copy 0, .stop 0, .copy 2] := hfirst.copy (by decide)
  obtain ⟨hstopped, hstays, -⟩ := family_stops_together _ hall
  have hcopy : Family [.create, .create, .copy 0, .stop 0, .copy 2] 0 3 :=
    .trans _ 2 _ (.rel _ _ ⟨[.create, .create], [.stop 0, .copy 2], rfl, rfl⟩)
      (.rel _ _ ⟨[.create, .create, .copy 0, .stop 0], [], rfl, rfl⟩)
  have hthree := (hstopped 3 (by decide)).2 ⟨0, by decide, hcopy⟩
  exact ⟨_, rfl, hall, hthree, by decide, hstays _ hall.create 3 hthree⟩

end LoopGauge.Engine.StopFlags
