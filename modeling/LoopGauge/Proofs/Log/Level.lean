import LoopGauge.Log.Level
import LoopGauge.Proofs.Text.Casing
import LoopGauge.Text.Blank
import Mathlib.Data.List.Forall2
import Mathlib.Data.List.Infix

/-!
# Words for levels

Seven words name the six levels. A text is read as a level exactly if it is such a word letter by
letter, in either letter case, where a dotless i may stand for an i. The full map to upper case adds
nothing else to this: what any other character outside ASCII becomes is no part of a word. Mostly
one letter tells this; the ligatures that become an `F` and more go on with a letter that follows no
`F` in any word.

## Main definitions

* `Level.words`: the words for a level.
* `Level.Spells`: whether a character may stand for a letter of a word.

## Main statements

* `Level.uppercase_eq_iff`: what becomes a word in upper case.
* `Level.words_read`: what is read, and the fault of every other text.
-/

namespace LoopGauge.Log.Level

open Text

variable {l : Level} {c d : Char} {cs ds : List Char} {word s : String}

/-- The words for a level, in small letters. -/
def words : Level → List String
  | trace => ["trace"]
  | debug => ["debug"]
  | info => ["info"]
  | warn => ["warn", "warning"]
  | error => ["error"]
  | fatal => ["fatal"]

/-- Whether a character may stand for one of a word: the same letter, or a dotless i for an i. -/
def Spells (c d : Char) : Prop := c.toUpper = d.toUpper ∨ c = 'ı' ∧ d = 'i'

instance : DecidableRel Spells := fun _ _ => inferInstanceAs (Decidable (_ ∨ _))

/-- A text in which every character is ASCII or a dotless i. -/
def Plain (cs : List Char) : Prop := ∀ c ∈ cs, c.toNat < 128 ∨ c = 'ı'

theorem isLower_of_mem_words (h : word ∈ l.words) : ∀ d ∈ word.toList, d.isLower := by
  have hall : l.words.all fun word => word.toList.all Char.isLower := by
    cases l <;> decide
  exact List.all_eq_true.1 (List.all_eq_true.1 hall word h)

/-- In capitals, no word has a part that a single character from outside ASCII can become, dotless
i apart. -/
theorem not_infix_capitals (h : word ∈ l.words) (hc : 128 ≤ c.toNat) (hdotless : c ≠ 'ı') :
    ¬upperMap.chars c <:+: word.toList.map Char.toUpper := by
  have hseveral : ∀ word ∈ l.words, ∀ entry ∈ upperMap.several,
      ¬entry.2.map Char.ofNat <:+: word.toList.map Char.toUpper := by
    cases l <;> decide +kernel
  have hletters : l.words.all fun word => (word.toList.map Char.toUpper).all fun d =>
      d.toNat < 128 ∧ d ≠ 'S' := by
    cases l <;> decide +kernel
  have hletter {d : Char} (hd : d ∈ word.toList.map Char.toUpper) : d.toNat < 128 ∧ d ≠ 'S' :=
    of_decide_eq_true (List.all_eq_true.1 (List.all_eq_true.1 hletters word h) d hd)
  intro hinfix
  obtain ⟨entry, hentry, hchars⟩ | heq | hlong | ⟨d, hchars, hd⟩ := chars_upperMap_of_outside hc
  · exact hseveral word h entry hentry (hchars ▸ hinfix)
  · exact hdotless heq
  · have hmem := hinfix.subset (hlong ▸ List.mem_singleton_self 'S')
    exact (hletter hmem).2 rfl
  · have hmem := hinfix.subset (hchars ▸ List.mem_singleton_self d)
    exact absurd (hletter hmem).1 (Nat.not_lt.2 hd)

theorem chars_infix_uppercase (h : c ∈ cs) : upperMap.chars c <:+: uppercase cs := by
  obtain ⟨front, back, rfl⟩ := List.append_of_mem h
  rw [uppercase, List.flatMap_append, List.flatMap_cons]
  exact ⟨_, _, List.append_assoc ..⟩

/-- What becomes a word in upper case has been plain before. -/
theorem plain_of_uppercase (hword : word ∈ l.words)
    (h : uppercase cs = word.toList.map Char.toUpper) : Plain cs := by
  intro c hc
  by_contra hout
  obtain ⟨hascii, hdotless⟩ := not_or.1 hout
  exact not_infix_capitals hword (Nat.le_of_not_lt hascii) hdotless (h ▸ chars_infix_uppercase hc)

theorem ascii_of_isLower (hd : d.isLower) : d.toNat < 128 := by
  obtain ⟨-, hlast⟩ := Bool.and_eq_true_iff.1 hd
  have hlast : d.toNat ≤ 122 := UInt32.le_iff_toNat_le.1 (of_decide_eq_true hlast)
  omega

/-- The capital of a letter, and that only the one with a dot becomes an `I`. -/
theorem toUpper_of_isLower (hd : d.isLower) :
    d.toUpper.toNat < 128 ∧ ¬isBlank d.toUpper ∧ (d.toUpper = 'I' → d = 'i') :=
  of_ascii (P := fun d => d.isLower → d.toUpper.toNat < 128 ∧ ¬isBlank d.toUpper ∧
    (d.toUpper = 'I' → d = 'i')) (by decide) (ascii_of_isLower hd) hd

/-- A character stands for a letter exactly if it is plain and becomes the capital. -/
theorem spells_iff (hd : d.isLower) :
    Spells c d ↔ (c.toNat < 128 ∨ c = 'ı') ∧ upperMap.chars c = [d.toUpper] := by
  obtain ⟨hcapital, -, hdot⟩ := toUpper_of_isLower hd
  by_cases hascii : c.toNat < 128
  · have hdotless : c ≠ 'ı' := by
      rintro rfl
      exact absurd hascii (by decide)
    rw [chars_upperMap_of_ascii hascii, List.singleton_inj, and_iff_right (.inl hascii), Spells,
      or_iff_left fun h => hdotless h.1]
  · have hne : c.toUpper ≠ d.toUpper := by
      rw [toUpper_of_outside (Nat.le_of_not_lt hascii)]
      rintro rfl
      exact hascii hcapital
    rw [Spells, or_iff_right hne, or_iff_right hascii]
    refine and_congr_right fun hdotless => ?_
    rw [hdotless, chars_upperMap_dotless, List.singleton_inj]
    refine ⟨?_, fun h => hdot h.symm⟩
    rintro rfl
    rfl

theorem exists_chars_of_plain (h : c.toNat < 128 ∨ c = 'ı') : ∃ d, upperMap.chars c = [d] := by
  obtain hascii | rfl := h
  · exact ⟨_, chars_upperMap_of_ascii hascii⟩
  · exact ⟨_, chars_upperMap_dotless⟩

theorem not_isBlank_of_spells (hd : d.isLower) (h : Spells c d) : ¬isBlank c := by
  obtain ⟨-, hblank, -⟩ := toUpper_of_isLower hd
  obtain h | ⟨rfl, -⟩ := h
  · by_cases hascii : c.toNat < 128
    · rw [← h] at hblank
      exact of_ascii (P := fun c => ¬isBlank c.toUpper → ¬isBlank c) (by decide) hascii hblank
    · rwa [← h, toUpper_of_outside (Nat.le_of_not_lt hascii)] at hblank
  · decide

/-- What spells letters has no blanks. -/
theorem not_isBlank_of_forall₂ (h : List.Forall₂ Spells cs ds) (hds : ∀ d ∈ ds, d.isLower) :
    ∀ c ∈ cs, ¬isBlank c := by
  induction h with
  | nil => exact nofun
  | cons hspells h ih =>
    obtain ⟨hd, hds⟩ := List.forall_mem_cons.1 hds
    exact List.forall_mem_cons.2 ⟨not_isBlank_of_spells hd hspells, ih hds⟩

/-- Letters are spelled exactly by a plain text that becomes them in upper case. -/
theorem forall₂_spells_iff (hds : ∀ d ∈ ds, d.isLower) :
    List.Forall₂ Spells cs ds ↔ Plain cs ∧ uppercase cs = ds.map Char.toUpper := by
  constructor
  · intro h
    induction h with
    | nil => exact ⟨nofun, rfl⟩
    | cons hspells h ih =>
      obtain ⟨hd, hds⟩ := List.forall_mem_cons.1 hds
      obtain ⟨hplain, hupper⟩ := ih hds
      obtain ⟨hside, hchars⟩ := (spells_iff hd).1 hspells
      refine ⟨List.forall_mem_cons.2 ⟨hside, hplain⟩, ?_⟩
      rw [uppercase, List.flatMap_cons, hchars, ← uppercase, hupper, List.singleton_append,
        List.map_cons]
  · rintro ⟨hplain, hupper⟩
    induction cs generalizing ds with
    | nil =>
      obtain rfl := List.map_eq_nil_iff.1 hupper.symm
      exact .nil
    | cons c cs ih =>
      obtain ⟨hside, hplain⟩ := List.forall_mem_cons.1 hplain
      obtain ⟨e, hchars⟩ := exists_chars_of_plain hside
      rw [uppercase, List.flatMap_cons, hchars, ← uppercase, List.singleton_append] at hupper
      obtain ⟨d, ds, rfl, rfl, hrest⟩ := List.map_eq_cons_iff.1 hupper.symm
      obtain ⟨hd, hds⟩ := List.forall_mem_cons.1 hds
      exact .cons ((spells_iff hd).2 ⟨hside, hchars⟩) (ih hds hplain hrest.symm)

/-- A text becomes a word in upper case exactly if it spells the word. -/
theorem uppercase_eq_iff (hword : word ∈ l.words) :
    uppercase cs = word.toList.map Char.toUpper ↔ List.Forall₂ Spells cs word.toList := by
  rw [forall₂_spells_iff (isLower_of_mem_words hword)]
  exact ⟨fun h => ⟨plain_of_uppercase hword h, h⟩, fun h => h.2⟩

theorem find?_name_eq_some_iff {s : String} : all.find? (·.name = s) = some l ↔ l.name = s := by
  constructor
  · intro h
    simpa using List.find?_some h
  · rintro rfl
    cases l <;> rfl

/-- The names in lines of text are words in capitals, and one level has a second word. -/
theorem exists_words_iff :
    (∃ word ∈ l.words, ds = word.toList.map Char.toUpper) ↔
      l.name = String.ofList ds ∨ String.ofList ds = "WARNING" ∧ l = warn := by
  simp only [← String.toList_inj, String.toList_ofList]
  cases l <;> simp [words, name, eq_comm]

theorem name_ne_warning (l : Level) : l.name ≠ "WARNING" := by
  cases l <;> decide

theorem read?_eq_some_iff :
    read? s = some l ↔ ∃ word ∈ l.words, List.Forall₂ Spells s.toList word.toList := by
  have hwords : (∃ word ∈ l.words, List.Forall₂ Spells s.toList word.toList) ↔
      ∃ word ∈ l.words, uppercase s.toList = word.toList.map Char.toUpper :=
    exists_congr fun word => and_congr_right fun hword => (uppercase_eq_iff hword).symm
  rw [hwords, exists_words_iff, read?]
  generalize String.ofList (uppercase s.toList) = capitals
  split
  next hwarning =>
    subst hwarning
    rw [or_iff_right l.name_ne_warning, and_iff_right rfl, Option.some.injEq]
    exact eq_comm
  next hother => rw [find?_name_eq_some_iff, or_iff_left fun h => hother h.1]

theorem parse_eq_ok_iff :
    parse s = .ok l ↔ ∃ word ∈ l.words, List.Forall₂ Spells s.toList word.toList := by
  rw [← read?_eq_some_iff, parse]
  cases read? s <;> simp

theorem parse_eq_error_of_not
    (h : ∀ l : Level, ∀ word ∈ l.words, ¬List.Forall₂ Spells s.toList word.toList) :
    parse s = .error ⟨.parse, "Invalid log level: " ++ s⟩ := by
  rw [parse]
  cases hread : read? s with
  | none => rfl
  | some l =>
    obtain ⟨word, hword, hspells⟩ := read?_eq_some_iff.1 hread
    exact absurd hspells (h l word hword)

/-- **Exactly the spellings of the seven words are read.** A text is read as a level exactly if it
is a word for this level letter by letter, up to the case of letters `A` to `Z` and up to a dotless
i for an i. Every other text is quoted as it is in a fault, and so is every text with a blank in
front of its word, behind it or within it, and every text with another character from outside ASCII,
whatever becomes of it in upper case. -/
theorem words_read (s : String) :
    (∀ l, parse s = .ok l ↔ ∃ word ∈ l.words, List.Forall₂ Spells s.toList word.toList) ∧
    ((∀ l : Level, ∀ word ∈ l.words, ¬List.Forall₂ Spells s.toList word.toList) →
      parse s = .error ⟨.parse, "Invalid log level: " ++ s⟩) ∧
    ∀ c ∈ s.toList, isBlank c ∨ 128 ≤ c.toNat ∧ c ≠ 'ı' →
      parse s = .error ⟨.parse, "Invalid log level: " ++ s⟩ := by
  refine ⟨fun l => parse_eq_ok_iff, parse_eq_error_of_not, fun c hc hforeign => ?_⟩
  refine parse_eq_error_of_not fun l word hword hspells => ?_
  have hlower := isLower_of_mem_words hword
  obtain hblank | ⟨hout, hdotless⟩ := hforeign
  · exact not_isBlank_of_forall₂ hspells hlower c hc hblank
  · obtain ⟨hplain, -⟩ := (forall₂_spells_iff hlower).1 hspells
    exact (hplain c hc).elim (Nat.not_lt.2 hout) hdotless

/-- The long word in mixed case with a dotless i; a blank, a dotted capital and a ligature spoil a
word. -/
theorem words_read_or_quoted :
    parse "wArnıNg" = .ok warn ∧
      ' ' ∈ "info ".toList ∧ isBlank ' ' ∧
      parse "info " = .error ⟨.parse, "Invalid log level: info "⟩ ∧
      'İ' ∈ "İnfo".toList ∧ 128 ≤ 'İ'.toNat ∧ 'İ' ≠ 'ı' ∧
      parse "İnfo" = .error ⟨.parse, "Invalid log level: İnfo"⟩ ∧
      (∀ l : Level, ∀ word ∈ l.words, ¬List.Forall₂ Spells "inﬀo".toList word.toList) ∧
      parse "inﬀo" = .error ⟨.parse, "Invalid log level: inﬀo"⟩ := by
  have hligature :
      ∀ l : Level, ∀ word ∈ l.words, ¬List.Forall₂ Spells "inﬀo".toList word.toList := by
    intro l
    cases l <;> decide
  refine ⟨((words_read _).1 _).2 ⟨"warning", by decide, by decide⟩, by decide, by decide,
    (words_read _).2.2 ' ' (by decide) (.inl (by decide)), by decide, by decide, by decide,
    (words_read _).2.2 'İ' (by decide) (.inr (by decide)), hligature, (words_read _).2.1 hligature⟩

end LoopGauge.Log.Level
