import LoopGauge.Json.Decoder
import LoopGauge.Proofs.Json.Leaves

/-!
# Texts as trees

What reading makes of a text of the grammar, wherever a value may stand: the tree of the value is
complete and belongs to the innermost list or object that is open, and reading goes on behind the
text. So the texts of parts can be put together as the grammar says.

## Main definitions

* `Spells cs t`: wherever a value may stand, the text is read as the tree.
* `SpellsItems`, `SpellsEntries`: the same for what stands between brackets.

## Main statements

* `Spells.read`: a text that is a value, with blanks around it, is read as its tree.
* `exists_spells_of_isValue`: every value of the grammar is read as a tree without a fault.
-/

namespace LoopGauge.Json

open Grammar

variable {cs before after gap gap' key rest : List Char} {l : Literal} {n : Numeral} {t : Tree}
  {ts : List Tree} {es : List (Literal × Tree)}

/-- The document that lexemes make after a step. -/
def Step.proceed : Step → List Lexeme → Document
  | go place outer, ls => Document.resume place outer ls
  | stop d, _ => d

theorem Document.resume_cons (place : Place) (outer : List Frame) (l : Lexeme)
    (ls : List Lexeme) :
    Document.resume place outer (l :: ls) = (place.step outer l).proceed ls := by
  rw [resume]
  split
  next d h => rw [h, Step.proceed]
  next place' outer' h => rw [h, Step.proceed]

/-- Wherever a value may stand, the text is read as the tree, and reading goes on behind it. The
first lexeme of a value does not close a list, so it may be the first item of one. -/
def Spells (cs : List Char) (t : Tree) : Prop :=
  ∀ rest, Stops rest → ∃ l ls, Lexeme.scan (cs ++ rest) = l :: ls ∧ l ≠ .closeArray ∧
    ∀ outer, (Step.value outer l).proceed ls =
      (Step.complete t outer).proceed (Lexeme.scan rest)

/-- The text is read as items up to the end of a list. -/
def SpellsItems (cs : List Char) (ts : List Tree) : Prop :=
  ∀ rest, ∃ l ls, Lexeme.scan (cs ++ ']' :: rest) = l :: ls ∧ l ≠ .closeArray ∧
    ∀ items outer, (Step.value (.array items :: outer) l).proceed ls =
      (Step.complete (.array (items.reverse ++ ts) .closed) outer).proceed (Lexeme.scan rest)

/-- The text is read as entries up to the end of an object. -/
def SpellsEntries (cs : List Char) (es : List (Literal × Tree)) : Prop :=
  ∀ rest, ∃ key ls, Lexeme.scan (cs ++ '}' :: rest) = .string key :: ls ∧
    ∀ entries outer, (Step.ofKey entries key outer).proceed ls =
      (Step.complete (.object (entries.reverse ++ es) .closed) outer).proceed (Lexeme.scan rest)

section Lexemes

/-- What stands between two characters and what follows them. -/
theorem enclosed_append (c d : Char) (cs rest : List Char) :
    c :: (cs ++ [d]) ++ rest = c :: (cs ++ d :: rest) := by
  rw [List.cons_append, List.append_assoc, List.singleton_append]

/-- The characters that are lexemes by themselves. -/
def marks : List (Char × Lexeme) :=
  [('[', .openArray), (']', .closeArray), ('{', .openObject), ('}', .closeObject), (',', .comma),
    (':', .colon)]

theorem scan_mark {c : Char} {l : Lexeme} (h : (c, l) ∈ marks) (rest : List Char) :
    Lexeme.scan (c :: rest) = l :: Lexeme.scan rest := by
  simp only [marks, List.mem_cons, Prod.mk.injEq, List.not_mem_nil, or_false] at h
  obtain ⟨rfl, rfl⟩ | ⟨rfl, rfl⟩ | ⟨rfl, rfl⟩ | ⟨rfl, rfl⟩ | ⟨rfl, rfl⟩ | ⟨rfl, rfl⟩ := h <;>
    exact Lexeme.scan_cons (by decide) rfl rfl

/-- A string is one lexeme, whatever follows. -/
theorem scan_text (hl : l.ReadAs cs) (rest : List Char) :
    Lexeme.scan ('"' :: (cs ++ '"' :: rest)) = .string l :: Lexeme.scan rest := by
  refine Lexeme.scan_cons (by decide) ?_ hl.breach
  change (Lexeme.string (Literal.scan _).1, (Literal.scan _).2) = _
  rw [hl.scan]

theorem scan_number (hcs : IsNumber cs) (hn : n.ReadAs cs) (hrest : Stops rest) :
    Lexeme.scan (cs ++ rest) = .number n :: Lexeme.scan rest := by
  obtain ⟨c, ds, rfl, hc⟩ := exists_cons_of_isNumber hcs
  have hspace : ¬isSpace c := by
    have hall : ∀ d ∈ [' ', '\n', '\t', '\r'], ¬(d = '-' ∨ isDigit d) := by
      simp [isDigit]
    intro h
    exact hall c (by simpa [isSpace, or_assoc] using h) hc
  rw [List.cons_append]
  refine Lexeme.scan_cons hspace ?_ hn.breach
  rw [Lexeme.next_of_number hc, ← List.cons_append, hn.scan rest hrest]

end Lexemes

section Leaves

theorem Spells.null : Spells "null".toList (.word .null none) := fun rest _ =>
  ⟨_, _, @Lexeme.scan_cons 'n' _ _ (.word .null none) (by decide) rfl rfl, nofun, fun _ => rfl⟩

theorem Spells.yes : Spells "true".toList (.word .yes none) := fun rest _ =>
  ⟨_, _, @Lexeme.scan_cons 't' _ _ (.word .yes none) (by decide) rfl rfl, nofun, fun _ => rfl⟩

theorem Spells.no : Spells "false".toList (.word .no none) := fun rest _ =>
  ⟨_, _, @Lexeme.scan_cons 'f' _ _ (.word .no none) (by decide) rfl rfl, nofun, fun _ => rfl⟩

theorem Spells.number (hcs : IsNumber cs) (hn : n.ReadAs cs) : Spells cs (.number n) := by
  intro rest hrest
  refine ⟨_, _, scan_number hcs hn hrest, nofun, fun outer => ?_⟩
  rw [Step.value, hn.breach, Step.leaf]

theorem Spells.text (hl : l.ReadAs cs) : Spells ('"' :: (cs ++ ['"'])) (.text l) := by
  intro rest _
  rw [enclosed_append]
  refine ⟨_, _, scan_text hl rest, nofun, fun outer => ?_⟩
  rw [Step.value, hl.breach, Step.leaf]

end Leaves

section Lists

theorem Spells.emptyArray (hgap : IsGap gap) :
    Spells ('[' :: (gap ++ [']'])) (.array [] .closed) := by
  intro rest _
  rw [enclosed_append, scan_mark (l := .openArray) (by decide), Lexeme.scan_gap_append hgap,
    scan_mark (l := .closeArray) (by decide)]
  exact ⟨_, _, rfl, nofun, fun outer => Document.resume_cons _ _ _ _⟩

theorem Spells.array (h : SpellsItems cs ts) :
    Spells ('[' :: (cs ++ [']'])) (.array ts .closed) := by
  intro rest _
  obtain ⟨l, ls, hscan, hl, hitems⟩ := h rest
  rw [enclosed_append, scan_mark (l := .openArray) (by decide), hscan]
  refine ⟨_, _, rfl, nofun, fun outer => ?_⟩
  -- After the bracket an item may start or the list may end; this lexeme does not end it.
  have hfirst : Place.itemOrEnd.step outer l = Step.value (.array [] :: outer) l := by
    cases l <;> first | rfl | exact absurd rfl hl
  change Document.resume .itemOrEnd outer (l :: ls) = _
  rw [Document.resume_cons, hfirst]
  exact hitems [] outer

theorem SpellsItems.last (hbefore : IsGap before) (h : Spells cs t) (hafter : IsGap after) :
    SpellsItems (before ++ cs ++ after) [t] := by
  intro rest
  have hstops : Stops (after ++ ']' :: rest) := (stops_cons (by decide) rest).gap_append hafter
  obtain ⟨l, ls, hscan, hl, hvalue⟩ := h _ hstops
  refine ⟨l, ls, ?_, hl, fun items outer => ?_⟩
  · rw [List.append_assoc, List.append_assoc, Lexeme.scan_gap_append hbefore, hscan]
  · rw [hvalue, Lexeme.scan_gap_append hafter, scan_mark (l := .closeArray) (by decide)]
    exact (Document.resume_cons _ _ _ _).trans (by simp [Place.step])

theorem SpellsItems.more (hbefore : IsGap before) (h : Spells cs t) (hafter : IsGap after)
    (hrest : SpellsItems gap ts) :
    SpellsItems (before ++ cs ++ after ++ ',' :: gap) (t :: ts) := by
  intro rest
  have hstops : Stops (after ++ ',' :: (gap ++ ']' :: rest)) :=
    (stops_cons (by decide) _).gap_append hafter
  obtain ⟨l, ls, hscan, hl, hvalue⟩ := h _ hstops
  obtain ⟨l', ls', hscan', -, hitems⟩ := hrest rest
  refine ⟨l, ls, ?_, hl, fun items outer => ?_⟩
  · rw [List.append_assoc, List.append_assoc, List.append_assoc, Lexeme.scan_gap_append hbefore,
      List.cons_append, hscan]
  · rw [hvalue, Lexeme.scan_gap_append hafter, scan_mark (l := .comma) (by decide), hscan']
    -- The comma leads back to the place of a value, with one more item in the open list.
    change Document.resume (.commaInArray (t :: items)) outer (.comma :: l' :: ls') = _
    rw [Document.resume_cons]
    change Document.resume .value (.array (t :: items) :: outer) (l' :: ls') = _
    rw [Document.resume_cons]
    exact (hitems (t :: items) outer).trans (by simp)

end Lists

section Objects

theorem Spells.emptyObject (hgap : IsGap gap) :
    Spells ('{' :: (gap ++ ['}'])) (.object [] .closed) := by
  intro rest _
  rw [enclosed_append, scan_mark (l := .openObject) (by decide), Lexeme.scan_gap_append hgap,
    scan_mark (l := .closeObject) (by decide)]
  exact ⟨_, _, rfl, nofun, fun outer => Document.resume_cons _ _ _ _⟩

theorem Spells.object (h : SpellsEntries cs es) :
    Spells ('{' :: (cs ++ ['}'])) (.object es .closed) := by
  intro rest _
  obtain ⟨key, ls, hscan, hentries⟩ := h rest
  rw [enclosed_append, scan_mark (l := .openObject) (by decide), hscan]
  refine ⟨_, _, rfl, nofun, fun outer => ?_⟩
  change Document.resume .keyOrEnd outer (.string key :: ls) = _
  rw [Document.resume_cons]
  exact hentries [] outer

/-- A key, the colon behind it and its value, up to what follows the value. -/
theorem exists_scan_entry (hbefore : IsGap before) (hl : l.ReadAs key) (hgap : IsGap gap)
    (hgap' : IsGap gap') (h : Spells cs t) (hrest : Stops rest) :
    ∃ ls, Lexeme.scan (before ++ '"' :: (key ++ '"' ::
        (gap ++ ':' :: (gap' ++ (cs ++ rest))))) = .string l :: ls ∧
      ∀ entries outer, (Step.ofKey entries l outer).proceed ls =
        Document.resume (.commaInObject ((l, t) :: entries)) outer (Lexeme.scan rest) := by
  obtain ⟨first, ls, hscan, -, hvalue⟩ := h rest hrest
  refine ⟨.colon :: first :: ls, ?_, fun entries outer => ?_⟩
  · rw [Lexeme.scan_gap_append hbefore, scan_text hl, Lexeme.scan_gap_append hgap,
      scan_mark (l := .colon) (by decide), Lexeme.scan_gap_append hgap', hscan]
  · rw [Step.ofKey, hl.breach]
    change Document.resume (.colon entries l) outer (.colon :: first :: ls) = _
    rw [Document.resume_cons]
    change Document.resume .value (.object entries l :: outer) (first :: ls) = _
    rw [Document.resume_cons]
    exact hvalue (.object entries l :: outer)

theorem SpellsEntries.last (hbefore : IsGap before) (hl : l.ReadAs key) (hgap : IsGap gap)
    (hgap' : IsGap gap') (h : Spells cs t) (hafter : IsGap after) :
    SpellsEntries (before ++ ('"' :: (key ++ ['"'])) ++ gap ++ ':' :: (gap' ++ cs ++ after))
      [(l, t)] := by
  intro rest
  have hstops : Stops (after ++ '}' :: rest) := (stops_cons (by decide) rest).gap_append hafter
  obtain ⟨ls, hscan, hentry⟩ := exists_scan_entry hbefore hl hgap hgap' h hstops
  refine ⟨l, ls, ?_, fun entries outer => ?_⟩
  · rw [← hscan]
    simp only [List.append_assoc, List.cons_append, List.nil_append]
  · rw [hentry, Lexeme.scan_gap_append hafter, scan_mark (l := .closeObject) (by decide),
      Document.resume_cons]
    simp [Place.step]

theorem SpellsEntries.more {tail : List Char} (hbefore : IsGap before) (hl : l.ReadAs key)
    (hgap : IsGap gap) (hgap' : IsGap gap') (h : Spells cs t) (hafter : IsGap after)
    (htail : SpellsEntries tail es) :
    SpellsEntries
      (before ++ ('"' :: (key ++ ['"'])) ++ gap ++ ':' :: (gap' ++ cs ++ after ++ ',' :: tail))
      ((l, t) :: es) := by
  intro rest
  have hstops : Stops (after ++ ',' :: (tail ++ '}' :: rest)) :=
    (stops_cons (by decide) _).gap_append hafter
  obtain ⟨ls, hscan, hentry⟩ := exists_scan_entry hbefore hl hgap hgap' h hstops
  obtain ⟨key', ls', hscan', hentries⟩ := htail rest
  refine ⟨l, ls, ?_, fun entries outer => ?_⟩
  · rw [← hscan]
    simp only [List.append_assoc, List.cons_append, List.nil_append]
  · rw [hentry, Lexeme.scan_gap_append hafter, scan_mark (l := .comma) (by decide), hscan',
      Document.resume_cons]
    change Document.resume (.key ((l, t) :: entries)) outer (.string key' :: ls') = _
    rw [Document.resume_cons]
    exact (hentries ((l, t) :: entries) outer).trans (by simp)

end Objects

/-- A text that is a value, with blanks around it, is read as its tree to the end. -/
theorem Spells.read (h : Spells cs t) (hbefore : IsGap before) (hafter : IsGap after) :
    Document.read (String.ofList (before ++ cs ++ after)) = ⟨t, false⟩ := by
  have hstops : Stops after := List.append_nil after ▸ stops_nil.gap_append hafter
  have hend : Lexeme.scan after = [] := by
    rw [← List.append_nil after, Lexeme.scan_gap_append hafter, Lexeme.scan_nil]
  obtain ⟨l, ls, hscan, -, hvalue⟩ := h after hstops
  rw [Document.read, String.toList_ofList, List.append_assoc, Lexeme.scan_gap_append hbefore,
    hscan, Document.ofLexemes, Document.resume_cons]
  exact (hvalue []).trans (by rw [hend]; rfl)

theorem Spells.read_alone (h : Spells cs t) : Document.read (String.ofList cs) = ⟨t, false⟩ := by
  simpa using h.read isGap_nil isGap_nil

mutual

/-- Every value of the grammar is read as a tree without a fault. -/
theorem exists_spells_of_isValue {cs : List Char} (h : IsValue cs) :
    ∃ t, Spells cs t ∧ skim t = .ok () := by
  cases h with
  | null => exact ⟨_, .null, rfl⟩
  | true => exact ⟨_, .yes, rfl⟩
  | false => exact ⟨_, .no, rfl⟩
  | number h =>
    obtain ⟨n, hn⟩ := Numeral.exists_readAs h
    refine ⟨_, .number h hn, ?_⟩
    rw [skim, hn.breach]
    rfl
  | text h =>
    obtain ⟨h⟩ := h
    obtain ⟨l, hl⟩ := exists_literal_readAs h
    refine ⟨_, .text hl, ?_⟩
    rw [skim, hl.breach]
    rfl
  | emptyArray hgap => exact ⟨_, .emptyArray hgap, by simp [skim]; rfl⟩
  | array h =>
    obtain ⟨ts, hts, hskim⟩ := exists_spellsItems_of_isItems h
    refine ⟨_, .array hts, ?_⟩
    simp only [skim, hskim, Ending.check, bind, Except.bind]
  | emptyObject hgap => exact ⟨_, .emptyObject hgap, by simp [skim]; rfl⟩
  | object h =>
    obtain ⟨ts, hts, hskim⟩ := exists_spellsEntries_of_isEntries h
    refine ⟨_, .object hts, ?_⟩
    simp only [skim, hskim, Ending.check, bind, Except.bind]
termination_by 2 * cs.length
decreasing_by
  all_goals simp only [List.length_cons, List.length_append, List.length_nil]
  all_goals omega

/-- The items of an array are read without a fault. -/
theorem exists_spellsItems_of_isItems {cs : List Char} (h : IsItems cs) :
    ∃ ts, SpellsItems cs ts ∧ skimItems ts = .ok () := by
  cases h with
  | last hbefore h hafter =>
    obtain ⟨t, ht, hskim⟩ := exists_spells_of_isValue h
    refine ⟨_, .last hbefore ht hafter, ?_⟩
    simp only [skimItems, hskim, bind, Except.bind]
  | more hbefore h hafter hrest =>
    obtain ⟨t, ht, hskim⟩ := exists_spells_of_isValue h
    obtain ⟨ts, hts, hskims⟩ := exists_spellsItems_of_isItems hrest
    refine ⟨_, .more hbefore ht hafter hts, ?_⟩
    simp only [skimItems, hskim, hskims, bind, Except.bind]
termination_by 2 * cs.length + 1
decreasing_by
  all_goals simp only [List.length_cons, List.length_append]
  all_goals omega

/-- The entries of an object are read without a fault. -/
theorem exists_spellsEntries_of_isEntries {cs : List Char} (h : IsEntries cs) :
    ∃ es, SpellsEntries cs es ∧ skimEntries es = .ok () := by
  cases h with
  | last hbefore hkey hgap hgap' h hafter =>
    obtain ⟨hkey⟩ := hkey
    obtain ⟨l, hl⟩ := exists_literal_readAs hkey
    obtain ⟨t, ht, hskim⟩ := exists_spells_of_isValue h
    refine ⟨_, .last hbefore hl hgap hgap' ht hafter, ?_⟩
    simp only [skimEntries, hl.breach, failIf, hskim, bind, Except.bind]
  | more hbefore hkey hgap hgap' h hafter hrest =>
    obtain ⟨hkey⟩ := hkey
    obtain ⟨l, hl⟩ := exists_literal_readAs hkey
    obtain ⟨t, ht, hskim⟩ := exists_spells_of_isValue h
    obtain ⟨es, hes, hskims⟩ := exists_spellsEntries_of_isEntries hrest
    refine ⟨_, .more hbefore hl hgap hgap' ht hafter hes, ?_⟩
    simp only [skimEntries, hl.breach, failIf, hskim, hskims, bind, Except.bind]
termination_by 2 * cs.length + 1
decreasing_by
  all_goals simp only [List.length_cons, List.length_append]
  all_goals omega

end

end LoopGauge.Json
