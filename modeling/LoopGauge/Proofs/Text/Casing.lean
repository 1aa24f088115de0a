import LoopGauge.Text.Casing
import Mathlib.Data.List.Basic

/-!
# Letter case and ASCII

Within ASCII the full case maps are the maps of the letters `A` to `Z` and `a` to `z`. From outside
the map to lower case leads into ASCII for two characters only: the capital I with a dot above,
which leaves its dot behind, and the Kelvin sign, which becomes a `k`. The sigma at the end of a
word makes no difference to this. The map to upper case leads into ASCII for the dotless i, the long
s and characters that become several.

## Main definitions

* `CaseMap.strays`: the characters that a case map may lead from one side of ASCII to the other.
* `Lowered`: one text is another in lower case, with either small sigma for a capital one.

## Main statements

* `CaseMap.chars_of_outside`: all other characters outside ASCII stay outside.
* `Lowered.ascii`: a text that is ASCII without a `k` in lower case is ASCII.
* `chars_upperMap_of_outside`: what characters outside ASCII become in upper case.
-/

namespace LoopGauge.Text

variable {c : Char} {cs ds : List Char} {code : Nat}

/-- Whether a run stays on its side of ASCII, and leads to characters at all. -/
def CaseRun.KeepsSide (r : CaseRun) : Prop :=
  r.last < 128 ∨ (128 ≤ r.first + r.shift ∧
    (r.last + r.shift < 0xD800 ∨ 0xDFFF < r.first + r.shift ∧ r.last + r.shift < 0x110000))

instance (r : CaseRun) : Decidable r.KeepsSide :=
  inferInstanceAs (Decidable (_ ∨ _))

/-- Outside ASCII such a run leads to characters outside ASCII. -/
theorem CaseRun.KeepsSide.image {r : CaseRun} (h : r.KeepsSide) (hfirst : r.first ≤ code)
    (hlast : code ≤ r.last) (hcode : 128 ≤ code) :
    ((code : Int) + r.shift).toNat.isValidChar ∧ 128 ≤ ((code : Int) + r.shift).toNat := by
  unfold CaseRun.KeepsSide at h
  unfold Nat.isValidChar
  omega

namespace CaseMap

variable {m : CaseMap}

/-- The code points that a map may lead into ASCII, or to several characters. -/
def strays (m : CaseMap) : List Nat :=
  m.several.map (·.1) ++
    (m.runs.filter fun r => ¬r.KeepsSide).flatMap fun r =>
      List.range' r.first (r.last + 1 - r.first)

/-- A code point becomes several, or moves with its run, or stays. -/
theorem codes_cases (m : CaseMap) (code : Nat) :
    (∃ entry ∈ m.several, entry.1 = code ∧ m.codes code = entry.2) ∨
      (∃ r ∈ m.runs, r.first ≤ code ∧ code ≤ r.last ∧
        m.codes code = [((code : Int) + r.shift).toNat]) ∨
      m.codes code = [code] := by
  rw [codes]
  cases hseveral : m.several.find? (·.1 == code) with
  | some entry =>
    have hcode := List.find?_some hseveral
    exact .inl ⟨entry, List.mem_of_find?_eq_some hseveral, eq_of_beq hcode, rfl⟩
  | none =>
    refine .inr ?_
    cases hrun : m.runs.find? (·.holds code) with
    | some r =>
      have hholds := List.find?_some hrun
      simp only [CaseRun.holds, Bool.and_eq_true, decide_eq_true_eq] at hholds
      exact .inl ⟨r, List.mem_of_find?_eq_some hrun, hholds.1.1, hholds.1.2, rfl⟩
    | none => exact .inr rfl

theorem keepsSide_of_notMem_strays {r : CaseRun} (hr : r ∈ m.runs) (hfirst : r.first ≤ code)
    (hlast : code ≤ r.last) (hstray : code ∉ m.strays) : r.KeepsSide := by
  by_contra hside
  have hrun : r ∈ m.runs.filter fun r => ¬r.KeepsSide :=
    List.mem_filter.2 ⟨hr, decide_eq_true hside⟩
  have hcode : code ∈ List.range' r.first (r.last + 1 - r.first) :=
    List.mem_range'_1.2 ⟨hfirst, by omega⟩
  exact hstray (List.mem_append_right _ (List.mem_flatMap.2 ⟨r, hrun, hcode⟩))

/-- Outside ASCII only strays can lead into it. -/
theorem chars_of_outside (hc : 128 ≤ c.toNat) (hstray : c.toNat ∉ m.strays) :
    ∃ d, m.chars c = [d] ∧ 128 ≤ d.toNat := by
  obtain ⟨entry, hentry, hcode, -⟩ | ⟨r, hr, hfirst, hlast, hcodes⟩ | hcodes :=
    m.codes_cases c.toNat
  · have hseveral : c.toNat ∈ m.several.map (·.1) := hcode ▸ List.mem_map_of_mem hentry
    exact absurd (List.mem_append_left _ hseveral) hstray
  · have hside := keepsSide_of_notMem_strays hr hfirst hlast hstray
    obtain ⟨hvalid, hout⟩ := hside.image hfirst hlast hc
    refine ⟨_, by rw [chars, hcodes, List.map_singleton], ?_⟩
    rw [Char.ofNat, dif_pos hvalid]
    exact hout
  · exact ⟨c, by rw [chars, hcodes, List.map_singleton, Char.ofNat_toNat], hc⟩

/-- Within ASCII a map is its first run, if all else that it moves lies outside. -/
theorem codes_of_ascii {r : CaseRun} {rest : List CaseRun} (hruns : m.runs = r :: rest)
    (hrest : ∀ r ∈ rest, 128 ≤ r.first) (hseveral : ∀ entry ∈ m.several, 128 ≤ entry.1)
    (hcode : code < 128) :
    m.codes code = [if r.holds code then ((code : Int) + r.shift).toNat else code] := by
  have hnone : m.several.find? (·.1 == code) = none := by
    refine List.find?_eq_none.2 fun entry hentry heq => ?_
    have hout := hseveral entry hentry
    rw [eq_of_beq heq] at hout
    omega
  have hlater : rest.find? (·.holds code) = none := by
    refine List.find?_eq_none.2 fun r hr hholds => ?_
    have hout := hrest r hr
    simp only [CaseRun.holds, Bool.and_eq_true, decide_eq_true_eq] at hholds
    omega
  rw [codes, hnone, hruns, List.find?_cons]
  cases r.holds code with
  | true => rfl
  | false => simp only [hlater, Bool.false_eq_true, if_false]

theorem exists_codes_of_several (h : code ∈ m.several.map (·.1)) :
    ∃ entry ∈ m.several, m.codes code = entry.2 := by
  cases hentry : m.several.find? (·.1 == code) with
  | some entry => exact ⟨entry, List.mem_of_find?_eq_some hentry, by rw [codes, hentry]⟩
  | none =>
    obtain ⟨entry, hmem, rfl⟩ := List.mem_map.1 h
    exact absurd (List.find?_eq_none.1 hentry entry hmem) (by simp)

end CaseMap

theorem strays_lowerMap : lowerMap.strays = [304, 8490] := by
  decide +kernel

/-- What holds of the first code points holds of ASCII. -/
theorem of_ascii {P : Char → Prop} (h : ∀ n < 128, P (Char.ofNat n)) (hc : c.toNat < 128) :
    P c := by
  have hchar := h c.toNat hc
  rwa [Char.ofNat_toNat] at hchar

theorem toLower_of_outside (hc : 128 ≤ c.toNat) : c.toLower = c := by
  refine dif_neg fun hletter => ?_
  have hle : c.toNat ≤ 90 := UInt32.le_iff_toNat_le.1 hletter.2
  omega

/-- Within ASCII the full map to lower case is the one for letters `A` to `Z`. -/
theorem chars_lowerMap_of_ascii (hc : c.toNat < 128) : lowerMap.chars c = [c.toLower] := by
  have hmove : ∀ n < 128, Char.ofNat (if CaseRun.holds ⟨65, 90, 1, 32⟩ n then
      ((n : Int) + 32).toNat else n) = (Char.ofNat n).toLower := by decide
  rw [CaseMap.chars, CaseMap.codes_of_ascii rfl (by decide +kernel) (by decide) hc,
    List.map_singleton, hmove _ hc, Char.ofNat_toNat]

/-- From outside ASCII the map to lower case leads outside again, or to a `k`. -/
theorem chars_lowerMap_of_outside (hc : 128 ≤ c.toNat) :
    ∃ d ∈ lowerMap.chars c, 128 ≤ d.toNat ∨ d = 'k' := by
  by_cases hstray : c.toNat ∈ lowerMap.strays
  · have hchar : c ∈ lowerMap.strays.map Char.ofNat :=
      List.mem_map.2 ⟨_, hstray, Char.ofNat_toNat c⟩
    rw [strays_lowerMap, List.map_cons, List.map_singleton, List.mem_pair] at hchar
    obtain rfl | rfl := hchar
    · have hdotted : lowerMap.chars (Char.ofNat 304) = ['i', '\u0307'] := by decide +kernel
      exact ⟨'\u0307', by rw [hdotted]; exact List.mem_cons_of_mem _ (List.mem_singleton_self _),
        .inl (by decide)⟩
    · have hkelvin : lowerMap.chars (Char.ofNat 8490) = ['k'] := by decide +kernel
      exact ⟨'k', by rw [hkelvin]; exact List.mem_singleton_self _, .inr rfl⟩
  · obtain ⟨d, hd, hout⟩ := CaseMap.chars_of_outside hc hstray
    exact ⟨d, by rw [hd]; exact List.mem_singleton_self d, .inl hout⟩

/--
One text is another in lower case. A capital sigma may become either small one: which of them is
said by what stands around it.
-/
inductive Lowered : List Char → List Char → Prop where
  | nil : Lowered [] []
  | cons (c : Char) {cs ds : List Char} : Lowered cs ds → Lowered (c :: cs) (lowerMap.chars c ++ ds)
  | finalSigma {cs ds : List Char} : Lowered cs ds → Lowered ('Σ' :: cs) ('ς' :: ds)

theorem lowered_lowercase (cs : List Char) : Lowered cs (lowercase cs) := by
  induction cs with
  | nil => exact .nil
  | cons c cs ih => exact .cons c ih

/-- ASCII comes out letter by letter. -/
theorem Lowered.eq_map_toLower (h : Lowered cs ds) (hcs : ∀ c ∈ cs, c.toNat < 128) :
    ds = cs.map Char.toLower := by
  induction h with
  | nil => rfl
  | cons c h ih =>
    obtain ⟨hc, hcs⟩ := List.forall_mem_cons.1 hcs
    rw [chars_lowerMap_of_ascii hc, List.map_cons, ih hcs, List.singleton_append]
  | finalSigma h ih =>
    have hsigma : 128 ≤ 'Σ'.toNat := by decide
    exact absurd (List.forall_mem_cons.1 hcs).1 (Nat.not_lt.2 hsigma)

/-- What is ASCII in lower case, and has no `k` there, has been ASCII before. -/
theorem Lowered.ascii (h : Lowered cs ds) (hds : ∀ d ∈ ds, d.toNat < 128 ∧ d ≠ 'k') :
    ∀ c ∈ cs, c.toNat < 128 := by
  induction h with
  | nil => exact nofun
  | cons c h ih =>
    obtain ⟨hchars, hrest⟩ := List.forall_mem_append.1 hds
    refine List.forall_mem_cons.2 ⟨?_, ih hrest⟩
    by_contra hout
    obtain ⟨d, hd, houtside | hk⟩ := chars_lowerMap_of_outside (Nat.le_of_not_lt hout)
    · exact absurd (hchars d hd).1 (Nat.not_lt.2 houtside)
    · exact (hchars d hd).2 hk
  | finalSigma h ih =>
    have hsigma : 128 ≤ 'ς'.toNat := by decide
    exact absurd (List.forall_mem_cons.1 hds).1.1 (Nat.not_lt.2 hsigma)

theorem toUpper_of_outside (hc : 128 ≤ c.toNat) : c.toUpper = c := by
  refine dif_neg fun hletter => ?_
  have hle : c.toNat ≤ 122 := UInt32.le_iff_toNat_le.1 hletter.2
  omega

theorem strays_upperMap : upperMap.strays = upperMap.several.map (·.1) ++ [305, 383] := by
  decide +kernel

/-- Within ASCII the full map to upper case is the one for letters `a` to `z`. -/
theorem chars_upperMap_of_ascii (hc : c.toNat < 128) : upperMap.chars c = [c.toUpper] := by
  have hmove : ∀ n < 128, Char.ofNat (if CaseRun.holds ⟨97, 122, 1, -32⟩ n then
      ((n : Int) + -32).toNat else n) = (Char.ofNat n).toUpper := by decide
  rw [CaseMap.chars, CaseMap.codes_of_ascii rfl (by decide +kernel) (by decide +kernel) hc,
    List.map_singleton, hmove _ hc, Char.ofNat_toNat]

theorem chars_upperMap_dotless : upperMap.chars 'ı' = ['I'] := by decide +kernel

/-- From outside ASCII a character becomes several in upper case, or is one of two that become a
letter of ASCII, or stays outside. -/
theorem chars_upperMap_of_outside (hc : 128 ≤ c.toNat) :
    (∃ entry ∈ upperMap.several, upperMap.chars c = entry.2.map Char.ofNat) ∨
      c = 'ı' ∨ upperMap.chars c = ['S'] ∨ ∃ d, upperMap.chars c = [d] ∧ 128 ≤ d.toNat := by
  by_cases hstray : c.toNat ∈ upperMap.strays
  · rw [strays_upperMap, List.mem_append, List.mem_pair] at hstray
    obtain hseveral | hdotless | hlong := hstray
    · obtain ⟨entry, hentry, hcodes⟩ := CaseMap.exists_codes_of_several hseveral
      exact .inl ⟨entry, hentry, by rw [CaseMap.chars, hcodes]⟩
    · exact .inr (.inl (Char.toNat_inj.1 hdotless))
    · refine .inr (.inr (.inl ?_))
      rw [CaseMap.chars, hlong]
      decide +kernel
  · exact .inr (.inr (.inr (CaseMap.chars_of_outside hc hstray)))

end LoopGauge.Text
