import LoopGauge.Proofs.Text.Casing
import LoopGauge.SubTest
import Mathlib.Data.List.Forall2

/-!
# Spellings of sub-tests

A text names a sub-test exactly if, without the blanks around it, it is the name letter by letter,
up to the case of letters `A` to `Z` and up to `_` for `-`. The full map to lower case adds nothing
to this: what it leads into ASCII from outside is in no name.

## Main definitions

* `SubTest.Spells`: whether one character may stand for another of a name.

## Main statements

* `SubTest.spelled_iff`: what becomes a name in lower case.
* `SubTest.parse_spelled`: the spellings, and the fault of every other text.
-/

namespace LoopGauge.SubTest

open Text

variable {cs ds name : List Char} {c d : Char} {s : String} {t : SubTest}

/-- Whether a character may stand for one of a name: the same letter, or `_` for `-`. -/
def Spells (c d : Char) : Prop := c.toLower = d.toLower ∨ c = '_' ∧ d = '-'

instance : DecidableRel Spells := fun _ _ => inferInstanceAs (Decidable (_ ∨ _))

/-- The hyphen for the underscore, any other character for itself. -/
def hyphened (c : Char) : Char := if c = '_' then '-' else c

theorem ofName?_eq_some_iff : ofName? s = some t ↔ t.name = s := by
  constructor
  · intro h
    simpa using List.find?_some h
  · rintro rfl
    cases t <;> rfl

/-- What the characters of names are. -/
structure InName (d : Char) : Prop where
  ascii : d.toNat < 128
  lower : d.toLower = d
  ne_underscore : d ≠ '_'
  /-- The only letter that comes from outside ASCII in lower case. -/
  ne_k : d ≠ 'k'

theorem inName_of_mem (t : SubTest) : ∀ d ∈ t.name.toList, InName d := by
  have hall : t.name.toList.all fun d =>
      d.toNat < 128 ∧ d.toLower = d ∧ d ≠ '_' ∧ d ≠ 'k' := by
    cases t <;> decide
  intro d hd
  obtain ⟨hascii, hlower, hline, hk⟩ := of_decide_eq_true (List.all_eq_true.1 hall d hd)
  exact ⟨hascii, hlower, hline, hk⟩

theorem toLower_eq_underscore_iff : c.toLower = '_' ↔ c = '_' := by
  by_cases hc : c.toNat < 128
  · exact of_ascii (P := fun c => c.toLower = '_' ↔ c = '_') (by decide) hc
  · rw [toLower_of_outside (Nat.le_of_not_lt hc)]

theorem spells_iff (hd : InName d) : Spells c d ↔ hyphened c.toLower = d := by
  rw [Spells, hyphened, hd.lower]
  by_cases hc : c = '_'
  · subst hc
    rw [if_pos (by decide)]
    have hne : '_'.toLower ≠ d := fun h => hd.ne_underscore (h.symm.trans (by decide))
    simp only [hne, false_or, true_and]
    exact eq_comm
  · rw [if_neg (mt toLower_eq_underscore_iff.1 hc)]
    simp only [hc, false_and, or_false]

/-- A spelling of a name is ASCII. -/
theorem ascii_of_spells (h : List.Forall₂ Spells cs name) (hname : ∀ d ∈ name, InName d) :
    ∀ c ∈ cs, c.toNat < 128 := by
  induction h with
  | nil => exact nofun
  | @cons c d cs name hspells h ih =>
    obtain ⟨hd, hname⟩ := List.forall_mem_cons.1 hname
    refine List.forall_mem_cons.2 ⟨?_, ih hname⟩
    obtain hspells | ⟨rfl, -⟩ := hspells
    · by_contra hc
      rw [toLower_of_outside (Nat.le_of_not_lt hc), hd.lower] at hspells
      exact hc (hspells ▸ hd.ascii)
    · decide

/-- A spelling of a name is what becomes the name letter by letter. -/
theorem forall₂_spells_iff (hname : ∀ d ∈ name, InName d) :
    List.Forall₂ Spells cs name ↔ (cs.map Char.toLower).map hyphened = name := by
  induction name generalizing cs with
  | nil => simp
  | cons d name ih =>
    obtain ⟨hd, hname⟩ := List.forall_mem_cons.1 hname
    cases cs with
    | nil => simp
    | cons c cs =>
      rw [List.forall₂_cons, spells_iff hd, ih hname, List.map_cons, List.map_cons, List.cons.injEq]

/-- What has become a name, with hyphens, was ASCII without a `k` before it got them. -/
theorem plain_of_hyphened (hname : ∀ d ∈ ds.map hyphened, InName d) :
    ∀ d ∈ ds, d.toNat < 128 ∧ d ≠ 'k' := by
  intro d hd
  by_cases hline : d = '_'
  · subst hline
    decide
  · have hkept : hyphened d = d := if_neg hline
    have hin := hname _ (List.mem_map_of_mem hd)
    rw [hkept] at hin
    exact ⟨hin.ascii, hin.ne_k⟩

/-- A text becomes a name in lower case, with hyphens, exactly if it spells the name. -/
theorem spelled_iff (h : Lowered cs ds) (t : SubTest) :
    ds.map hyphened = t.name.toList ↔ List.Forall₂ Spells cs t.name.toList := by
  rw [forall₂_spells_iff (inName_of_mem t)]
  constructor
  · intro hname
    rw [← h.eq_map_toLower (h.ascii (plain_of_hyphened (hname ▸ inName_of_mem t))), hname]
  · intro hname
    have hspells := (forall₂_spells_iff (inName_of_mem t)).2 hname
    rw [h.eq_map_toLower (ascii_of_spells hspells (inName_of_mem t)), hname]

theorem ofName?_hyphened_eq_some_iff (h : Lowered cs ds) :
    ofName? (String.ofList (ds.map hyphened)) = some t ↔
      List.Forall₂ Spells cs t.name.toList := by
  rw [ofName?_eq_some_iff, ← spelled_iff h t, ← String.toList_inj, String.toList_ofList]
  exact eq_comm

theorem read?_eq_some_iff :
    read? s = some t ↔ List.Forall₂ Spells (trim s.toList) t.name.toList :=
  ofName?_hyphened_eq_some_iff (lowered_lowercase _)

theorem parse_eq_ok_iff_spells :
    parse s = .ok t ↔ List.Forall₂ Spells (trim s.toList) t.name.toList := by
  rw [← read?_eq_some_iff, parse]
  cases read? s <;> simp

theorem parse_eq_error (h : ∀ t : SubTest, ¬List.Forall₂ Spells (trim s.toList) t.name.toList) :
    parse s = .error ⟨.parse, "Unknown sub-test: " ++ s⟩ := by
  rw [parse]
  cases hread : read? s with
  | none => rfl
  | some t => exact absurd (read?_eq_some_iff.1 hread) (h t)

/-- **Exactly the spellings of the four names are read**. A text is read as a sub-test exactly if,
without the blanks around it, it agrees with the name letter by letter, up to the case of letters
`A` to `Z` and up to `_` for `-`. Every other text is quoted as it is, blanks included, and so is
every text that is not ASCII between its blanks, whatever becomes of it in lower case. Which small
sigma a capital one becomes makes no difference. -/
theorem parse_spelled (s : String) :
    (∀ t, parse s = .ok t ↔ List.Forall₂ Spells (trim s.toList) t.name.toList) ∧
    ((∀ t : SubTest, ¬List.Forall₂ Spells (trim s.toList) t.name.toList) →
      parse s = .error ⟨.parse, "Unknown sub-test: " ++ s⟩) ∧
    (∀ c ∈ trim s.toList, 128 ≤ c.toNat →
      parse s = .error ⟨.parse, "Unknown sub-test: " ++ s⟩) ∧
    ∀ ds, Lowered (trim s.toList) ds →
      ofName? (String.ofList (ds.map hyphened)) = read? s := by
  refine ⟨fun t => parse_eq_ok_iff_spells, parse_eq_error, fun c hc hout => ?_, fun ds h => ?_⟩
  · refine parse_eq_error fun t hspells => ?_
    exact Nat.not_lt.2 hout (ascii_of_spells hspells (inName_of_mem t) c hc)
  · ext t
    rw [ofName?_hyphened_eq_some_iff h, read?_eq_some_iff]

/-- Blanks of any kind go; a Kelvin sign is no letter, and a space within is no hyphen. -/
theorem parse_spelled_or_quoted :
    parse "\u3000Tcp_LATENCY\n" = .ok tcpLatency ∧
      (∀ t : SubTest, ¬List.Forall₂ Spells (trim " tcp latency".toList) t.name.toList) ∧
      parse " tcp latency" = .error ⟨.parse, "Unknown sub-test:  tcp latency"⟩ ∧
      '\u212a' ∈ trim " \u212a".toList ∧ 128 ≤ '\u212a'.toNat ∧
      parse " \u212a" = .error ⟨.parse, "Unknown sub-test:  \u212a"⟩ ∧
      Lowered (trim "\u03a3".toList) ['\u03c2'] ∧ ofName? "\u03c2" = read? "\u03a3" := by
  have hspace : ∀ t : SubTest, ¬List.Forall₂ Spells (trim " tcp latency".toList) t.name.toList := by
    intro t
    cases t <;> decide
  have hsigma : Lowered (trim "\u03a3".toList) ['\u03c2'] := .finalSigma .nil
  refine ⟨((parse_spelled _).1 _).2 (by decide), hspace, (parse_spelled _).2.1 hspace,
    by decide, by decide, (parse_spelled _).2.2.1 '\u212a' (by decide) (by decide), hsigma,
    (parse_spelled _).2.2.2 _ hsigma⟩

end LoopGauge.SubTest
