import LoopGauge.Json.Record
import LoopGauge.Proofs.Json.Meaning

/-!
# Reading typed values back

What a decoder makes of a tree is settled by the value that the tree says, if there is room for the
lists and objects inside it. One statement for each decoder: from what it takes its parts to be to
what it takes the whole to be.

## Main definitions

* `Takes d levels v a`: with room for the given levels, whatever says `v` is read as `a`.
* `Effect`: what one entry does to a record under way.

## Main statements

* `Takes.decode`: a text that stands for a value is read as what the decoder takes it to be.
* `takes_record`: a record is read back from its own fields, in the order in which they are written.
* `record_eq_of_keys`: a record is read from some of its fields, in any order and among strangers.
-/

namespace LoopGauge.Json

open Number Grammar

section Values

theorem fits_ofNat {n : Nat} (h : n ≤ wordLimit) : (Value.ofNat n).Fits := by
  refine .whole ?_ (Int.ofNat_le.2 h)
  exact Int.neg_le_of_neg_le (by simp [twoTo])

theorem fits_ofWord (n : UInt64) : (Value.ofWord n).Fits :=
  fits_ofNat (Nat.le_of_lt_succ n.toNat_lt)

theorem fits_array_map {α : Type} {f : α → Value} {xs : List α} (h : ∀ x ∈ xs, (f x).Fits) :
    (Value.array (xs.map f)).Fits :=
  .array fun _ hv => by
    obtain ⟨x, hx, rfl⟩ := List.mem_map.1 hv
    exact h x hx

theorem fits_entriesOf {ρ : Type} {fields : List (Member ρ)} {r : ρ}
    (h : ∀ f ∈ fields, (f.get r).Fits) : (Value.object (entriesOf fields r)).Fits :=
  .object fun _ he => by
    obtain ⟨f, hf, rfl⟩ := List.mem_map.1 he
    exact h f hf

end Values

variable {α β : Type} {d : Decoder α} {levels : Nat} {v : Value} {a : α}

/-- With room for the levels, every tree that says the value is read as the given one. -/
def Takes (d : Decoder α) (levels : Nat) (v : Value) (a : α) : Prop :=
  ∀ room t, levels ≤ room → Says t v → d room t = .ok a

theorem decode_of_read {s : String} {t : Tree} (hread : Document.read s = ⟨t, false⟩)
    (h : d maxDepth t = .ok a) : decode d s = .ok a := by
  simp only [Json.decode, hread, h, bind, Except.bind, Bool.false_eq_true, if_false]

/-- A text that stands for a value is read as what its decoder takes the value to be. -/
theorem Takes.decode (h : Takes d levels v a) (hlevels : levels ≤ maxDepth) {cs : List Char}
    (hcs : Denotes v cs) (hv : v.Fits) : decode d (String.ofList cs) = .ok a := by
  obtain ⟨t, hread, ht⟩ := exists_says hcs hv
  exact decode_of_read hread (h maxDepth t hlevels ht)

theorem Takes.mono {levels' : Nat} (h : Takes d levels v a) (hle : levels ≤ levels') :
    Takes d levels' v a := fun room t hroom => h room t (hle.trans hroom)

theorem Takes.map (h : Takes d levels v a) (f : α → β) : Takes (d.map f) levels v (f a) := by
  intro room t hroom ht
  rw [Decoder.map, h room t hroom ht, Except.map]

theorem Takes.filterMap {f : α → Option β} {b : β} (h : Takes d levels v a) (hb : f a = some b) :
    Takes (d.filterMap f) levels v b := by
  intro room t hroom ht
  simp only [Decoder.filterMap, h room t hroom ht, hb, bind, Except.bind]

section Leaves

theorem takes_text (s : String) : Takes .text 0 (.text s) s := by
  rintro room t - ⟨⟩
  assumption

theorem takes_flag (b : Bool) : Takes .flag 0 (.flag b) b := by
  rintro room t - ⟨⟩ <;> rfl

theorem takes_natUpTo {limit k : Nat} (h : k ≤ limit) :
    Takes (.natUpTo limit) 0 (.ofNat k) k := by
  rintro room t - ⟨⟩
  next n hn =>
    have hrange : (0 ≤ (k : Int) && (k : Int) ≤ limit) = true := by
      simp only [Bool.and_eq_true, decide_eq_true_eq]
      omega
    simp only [Decoder.natUpTo, hn, bind, Except.bind, hrange, if_true, Int.toNat_natCast]

theorem takes_word (n : UInt64) : Takes .word 0 (.ofWord n) n := by
  have hle : n.toNat ≤ wordLimit := Nat.le_of_lt_succ n.toNat_lt
  have h := (takes_natUpTo hle).map UInt64.ofNat
  rwa [UInt64.ofNat_toNat] at h

theorem takes_choice {name : α → String} {ofName : String → Option α}
    (h : ofName (name a) = some a) : Takes (.choice ofName) 0 (.text (name a)) a := by
  rintro room t - ⟨⟩
  next l hl => simp only [Decoder.choice, Decoder.named, hl, bind, Except.bind, h]

end Leaves

theorem takes_optional_none : Takes d.optional 0 .null none := by
  rintro room t - ⟨⟩
  rfl

/-- Something that cannot be mistaken for nothing is read as it is. -/
theorem Takes.optional (h : Takes d levels v a) (hnull : ¬Says (.word .null none) v) :
    Takes d.optional levels v (some a) := by
  intro room t hroom ht
  have hsome : (d room t).map some = .ok (some a) := by rw [h room t hroom ht, Except.map]
  unfold Decoder.optional
  split
  · exact absurd ht hnull
  · cases ht
  · exact hsome

section Lists

variable {vs : List Value} {as : List α}

/-- What is inside a list has one level less. -/
theorem deeper_of_le {room : Nat} (h : levels + 1 ≤ room) :
    ∃ inner, deeper room = .ok inner ∧ levels ≤ inner := by
  obtain _ | inner := room
  · exact absurd h (Nat.not_succ_le_zero _)
  · exact ⟨inner, rfl, Nat.le_of_succ_le_succ h⟩

theorem items_eq (h : List.Forall₂ (Takes d levels) vs as) {room : Nat} (hroom : levels ≤ room)
    {ts : List Tree} (hts : List.Forall₂ Says ts vs) : d.items room ts = .ok as := by
  induction h generalizing ts with
  | nil =>
    cases hts
    rfl
  | cons hhead _ ih =>
    obtain _ | ⟨ht, hts⟩ := hts
    simp only [Decoder.items, hhead room _ hroom ht, ih hts, bind, Except.bind, pure, Except.pure]

theorem takes_list (h : List.Forall₂ (Takes d levels) vs as) :
    Takes d.list (levels + 1) (.array vs) as := by
  intro room t hroom ht
  obtain ⟨ts, rfl, hts⟩ := says_array_iff.1 ht
  obtain ⟨inner, hdeeper, hinner⟩ := deeper_of_le hroom
  simp only [Decoder.list, hdeeper, items_eq h hinner hts, Ending.check, bind, Except.bind, pure,
    Except.pure]

end Lists

section Records

variable {ρ : Type} {fields : List (Member ρ)} {room : Nat}

/-- What an entry does to a record under way: a field changes it, a stranger does not. -/
inductive Effect (fields : List (Member ρ)) (room : Nat) :
    Literal × Tree → String × (ρ → ρ) → Prop where
  | field {key : Literal} {t : Tree} {f : Member ρ} {change : ρ → ρ} (hf : f ∈ fields)
      (hkey : key.value = .ok f.name) (hset : f.set room t = .ok change) :
      Effect fields room (key, t) (f.name, change)
  | stranger {key : Literal} {t : Tree} {k : String} (hkey : key.value = .ok k)
      (hk : k ∉ fields.map Member.name) (hskim : skim t = .ok ()) :
      Effect fields room (key, t) (k, id)

/-- The names among some keys. -/
def knownKeys (fields : List (Member ρ)) (keys : List String) : List String :=
  keys.filter (· ∈ fields.map Member.name)

theorem find?_name_eq (hfields : (fields.map Member.name).Nodup) {f : Member ρ} (hf : f ∈ fields) :
    fields.find? (·.name = f.name) = some f := by
  induction fields with
  | nil => cases hf
  | cons g gs ih =>
    rw [List.map_cons, List.nodup_cons] at hfields
    obtain rfl | hf := List.mem_cons.1 hf
    · exact List.find?_cons_of_pos (by simp)
    · have hne : g.name ≠ f.name := fun heq =>
        hfields.1 (heq ▸ List.mem_map_of_mem hf)
      rw [List.find?_cons_of_neg (by simpa using hne), ih hfields.2 hf]

/-- Entries of which no two name one field make their changes one after the other. -/
theorem namedFields_eq (hfields : (fields.map Member.name).Nodup) {es : List (Literal × Tree)}
    {steps : List (String × (ρ → ρ))} (h : List.Forall₂ (Effect fields room) es steps)
    {seen : List String} (hdistinct : (knownKeys fields (steps.map Prod.fst)).Nodup)
    (hseen : ∀ k ∈ knownKeys fields (steps.map Prod.fst), k ∉ seen) (r : ρ) :
    Decoder.namedFields .skimmed fields room seen r es =
      .ok ((knownKeys fields (steps.map Prod.fst)).reverse ++ seen,
        steps.foldl (fun r step => step.2 r) r) := by
  -- The names seen so far grow with the fields that are met, so no field is met twice.
  induction h generalizing seen r with
  | nil => rfl
  | cons heffect _ ih =>
    cases heffect with
    | @field key t f change hf hkey hset =>
      have hknown (ks : List String) : knownKeys fields (f.name :: ks) =
          f.name :: knownKeys fields ks :=
        List.filter_cons_of_pos (by simpa using ⟨f, hf, rfl⟩)
      simp only [List.map_cons, hknown, List.nodup_cons, List.forall_mem_cons] at hdistinct hseen
      have hrest : ∀ k ∈ knownKeys fields (List.map Prod.fst _), k ∉ f.name :: seen :=
        fun k hk hmem => (List.mem_cons.1 hmem).elim (fun heq => hdistinct.1 (heq ▸ hk))
          (hseen.2 k hk)
      have hnew : seen.contains f.name = false := by simpa using hseen.1
      simp only [Decoder.namedFields, hkey, bind, Except.bind, find?_name_eq hfields hf, hnew,
        Bool.false_eq_true, if_false, hset, ih hdistinct.2 hrest, List.map_cons, hknown,
        List.reverse_cons, List.append_assoc, List.singleton_append, List.foldl_cons]
    | @stranger key t k hkey hk hskim =>
      have hknown (ks : List String) : knownKeys fields (k :: ks) = knownKeys fields ks :=
        List.filter_cons_of_neg (by simpa using hk)
      have hfind : fields.find? (·.name = k) = none := by
        rw [List.find?_eq_none]
        intro f hf heq
        exact hk (of_decide_eq_true heq ▸ List.mem_map_of_mem hf)
      simp only [List.map_cons, hknown] at hdistinct hseen
      simp only [Decoder.namedFields, hkey, bind, Except.bind, hfind, reduceCtorEq, if_false, hskim,
        ih hdistinct hseen, List.map_cons, hknown, List.foldl_cons, id_eq]

/-- A record is read from entries of which no two name one field, if every field that must be there
is among them. -/
theorem record_eq (start : ρ) (hfields : (fields.map Member.name).Nodup)
    {es : List (Literal × Tree)} {steps : List (String × (ρ → ρ))}
    (h : List.Forall₂ (Effect fields room) es steps)
    (hdistinct : (knownKeys fields (steps.map Prod.fst)).Nodup)
    (hrequired : ∀ f ∈ fields, f.absence = .refused → f.name ∈ steps.map Prod.fst) :
    Decoder.record start fields .skimmed (room + 1) (.object es .closed) =
      .ok (steps.foldl (fun r step => step.2 r) start) := by
  have hall : (fields.all fun f => f.absence != .refused ||
      ((knownKeys fields (steps.map Prod.fst)).reverse ++ []).contains f.name) = true := by
    rw [List.all_eq_true]
    intro f hf
    by_cases hrefused : f.absence = .refused
    · have hmem := hrequired f hf hrefused
      have hknown : f.name ∈ knownKeys fields (steps.map Prod.fst) :=
        List.mem_filter.2 ⟨hmem, by simpa using ⟨f, hf, rfl⟩⟩
      simp [hknown]
    · simp [hrefused]
  simp only [Decoder.record, Decoder.finishedRecord, deeper, bind, Except.bind,
    namedFields_eq hfields h hdistinct (fun _ _ => List.not_mem_nil), Ending.check, hall, if_true]

/-- Entries after which a record under way is known from the keys so far, whatever their order. -/
theorem record_eq_of_keys {within : List String → ρ} (hfields : (fields.map Member.name).Nodup)
    {es : List (Literal × Tree)} {keys : List String}
    (h : List.Forall₂ (fun e k => ∃ change, Effect fields room e (k, change) ∧
      ∀ ks, change (within ks) = within (k :: ks)) es keys)
    (hdistinct : (knownKeys fields keys).Nodup)
    (hrequired : ∀ f ∈ fields, f.absence = .refused → f.name ∈ keys) :
    Decoder.record (within []) fields .skimmed (room + 1) (.object es .closed) =
      .ok (within keys.reverse) := by
  -- The invariant along the entries: the record under way is `within` of the keys so far.
  have hsteps : ∃ steps : List (String × (ρ → ρ)), steps.map Prod.fst = keys ∧
      List.Forall₂ (Effect fields room) es steps ∧
      ∀ ks, steps.foldl (fun r step => step.2 r) (within ks) = within (keys.reverse ++ ks) := by
    clear hdistinct hrequired
    induction h with
    | nil => exact ⟨[], rfl, .nil, fun _ => rfl⟩
    | @cons e k es keys hhead _ ih =>
      obtain ⟨change, heffect, hchange⟩ := hhead
      obtain ⟨steps, rfl, hsteps, hfold⟩ := ih
      refine ⟨(k, change) :: steps, rfl, .cons heffect hsteps, fun ks => ?_⟩
      simp only [List.foldl_cons, hchange, hfold, List.reverse_cons, List.append_assoc,
        List.singleton_append]
  obtain ⟨steps, rfl, hsteps, hfold⟩ := hsteps
  rw [record_eq _ hfields hsteps hdistinct hrequired, hfold, List.append_nil]

/-- A record is read back from its fields, if each of them is read back. -/
theorem takes_record {start r r' : ρ} {changes : List (ρ → ρ)}
    (hfields : (fields.map Member.name).Nodup)
    (h : List.Forall₂ (fun f change => Takes f.set levels (f.get r) change) fields changes)
    (hr : changes.foldl (fun r change => change r) start = r') :
    Takes (.record start fields .skimmed) (levels + 1) (.object (entriesOf fields r)) r' := by
  intro room t hroom ht
  obtain ⟨es, rfl, hes⟩ := says_object_iff.1 ht
  obtain _ | inner := room
  · exact absurd hroom (Nat.not_succ_le_zero _)
  -- Entries are written in the order of the fields, so they pair with the changes one by one.
  have hsteps {gs : List (Member ρ)} (hgs : ∀ g ∈ gs, g ∈ fields)
      {ds : List (ρ → ρ)} (hds : List.Forall₂ (fun f d => Takes f.set levels (f.get r) d) gs ds)
      {es : List (Literal × Tree)} (hes : List.Forall₂ SaysEntry es (entriesOf gs r)) :
      List.Forall₂ (Effect fields inner) es ((gs.map Member.name).zip ds) := by
    induction hds generalizing es with
    | nil =>
      cases hes
      exact .nil
    | @cons f change gs ds hf _ ih =>
      obtain _ | ⟨⟨hkey, hsays⟩, hes⟩ := hes
      rw [List.forall_mem_cons] at hgs
      exact .cons (.field hgs.1 hkey (hf inner _ (Nat.le_of_succ_le_succ hroom) hsays))
        (ih hgs.2 hes)
  have hlength : (fields.map Member.name).length = changes.length :=
    (List.length_map _).trans h.length_eq
  have hkeys : ((fields.map Member.name).zip changes).map Prod.fst = fields.map Member.name :=
    List.map_fst_zip hlength.le
  have hchanges : ((fields.map Member.name).zip changes).map Prod.snd = changes :=
    List.map_snd_zip hlength.ge
  rw [record_eq start hfields (hsteps (fun _ hg => hg) h hes), ← hr]
  · conv_rhs => rw [← hchanges, List.foldl_map]
  · rw [hkeys]
    exact hfields.filter _
  · rw [hkeys]
    exact fun f hf _ => List.mem_map_of_mem hf

end Records

end LoopGauge.Json
