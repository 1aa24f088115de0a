import LoopGauge.EnvFile.Check
import LoopGauge.Proofs.Text.Utf8

/-!
# Env files that load

Without NUL characters in the file and in the environment, every value of the file can be stored,
since a value is made of characters of its line and of the values of other variables. A file that
loads is a text, since each of its lines is, so it can be read once more as a whole.

## Main definitions

* `RawText.NulFree`, `Environment.NulFree`: there is no NUL character.
* `FileState.Proper`: a content is a text, or no text at all, and holds no NUL character.

## Main statements

* `load_ne_unstorable`: every value can be stored.
* `exists_check_eq_ok`: a file that has been loaded can be checked.
-/

namespace LoopGauge

open Text

/-- There is no NUL character in a text. -/
def Text.RawText.NulFree : RawText → Prop
  | text s => '\x00' ∉ s.toList
  | bytes b => 0 ∉ b

/-- Bytes that could be read count as a text. -/
def Text.RawText.Proper : RawText → Prop
  | text _ => True
  | bytes b => Utf8.decode? b = none

/-- A content is a text, or no text at all, and holds no NUL character. -/
def FileState.Proper : FileState → Prop
  | missing | directory => True
  | file content => content.Proper ∧ content.NulFree

namespace Environment

variable {env : Environment} {name value : String}

/-- There is no NUL character in the value of a variable. -/
def NulFree (env : Environment) : Prop := ∀ entry ∈ env.entries, entry.2.NulFree

theorem NulFree.read? (henv : env.NulFree) (h : env.read? name = some value) :
    '\x00' ∉ value.toList := by
  rw [Environment.read?, value?] at h
  obtain ⟨raw, hraw, htext⟩ := Option.bind_eq_some_iff.1 h
  obtain ⟨entry, hentry, rfl⟩ := Option.map_eq_some_iff.1 hraw
  have hfree := henv entry (List.mem_of_find?_eq_some hentry)
  cases hvalue : entry.2 with
  | text s =>
    rw [hvalue] at hfree htext
    obtain rfl := Option.some.inj htext
    exact hfree
  | bytes b =>
    rw [hvalue] at htext
    cases htext

theorem mem_of_after? {front cs rest : List Char} (h : after? front cs = some rest) {c : Char}
    (hc : c ∈ rest) : c ∈ cs := by
  induction front generalizing cs with
  | nil =>
    obtain rfl := Option.some.inj h
    exact hc
  | cons f front ih =>
    cases cs with
    | nil => cases h
    | cons d cs =>
      rw [after?] at h
      split at h
      · exact List.mem_cons_of_mem d (ih h)
      · cases h

theorem NulFree.textAfter? (henv : env.NulFree) (h : env.textAfter? name = some value) :
    '\x00' ∉ value.toList := by
  rw [Environment.textAfter?] at h
  split at h
  · exact henv.read? h
  · obtain ⟨whole, hwhole, h⟩ := Option.bind_eq_some_iff.1 h
    obtain ⟨rest, hrest, h⟩ := Option.bind_eq_some_iff.1 h
    obtain rfl := Option.some.inj h
    rw [String.toList_ofList]
    exact fun hmem => henv.read? hwhole (mem_of_after? hrest hmem)

theorem NulFree.set (henv : env.NulFree) (hvalue : '\x00' ∉ value.toList) :
    (env.set name value).NulFree := by
  intro entry hentry
  obtain hentry | hentry := List.mem_append.1 hentry
  · exact henv entry (List.mem_of_mem_filter hentry)
  · obtain rfl := List.mem_singleton.1 hentry
    exact hvalue

end Environment

namespace EnvFile

namespace Value

variable {resolve : String → String}

/-- Characters that a step adds are characters of the line, line feeds, or come from values. -/
theorem nul_not_mem_added (hresolve : ∀ name, '\x00' ∉ (resolve name).toList) {mode next : Mode}
    {c : Char} (hc : c ≠ '\x00') {added : List Char} (h : step resolve mode c = .go next added) :
    '\x00' ∉ added := by
  -- An escaped character stands for itself or for a line feed.
  have hescaped : ∀ d, escaped? c = some d → d ≠ '\x00' := by
    intro d hd
    rw [escaped?] at hd
    split at hd
    · exact Option.some.inj hd ▸ hc
    · split at hd
      · exact Option.some.inj hd ▸ by decide
      · cases hd
  have hname : ∀ letters : List Char, '\x00' ∉ (resolve (String.ofList letters.reverse)).toList :=
    fun letters => hresolve _
  cases mode with
  | ending =>
    simp only [step] at h
    repeat' split at h
    all_goals cases h
    exact List.not_mem_nil
  | escape quoted =>
    simp only [step] at h
    split at h
    next d hd =>
      cases h
      simpa using (hescaped d hd).symm
    next => cases h
  | single =>
    simp only [step] at h
    split at h <;> cases h
    · exact List.not_mem_nil
    · simpa using hc.symm
  | name quoted letters =>
    simp only [step] at h
    repeat' split at h
    all_goals cases h
    · exact List.not_mem_nil
    · exact List.not_mem_nil
    · exact hname letters
    · rw [List.mem_append, not_or]
      exact ⟨hname letters, by simpa using hc.symm⟩
  | braced quoted letters =>
    simp only [step] at h
    split at h <;> cases h
    · exact hname letters
    · exact List.not_mem_nil
  | double =>
    simp only [step] at h
    repeat' split at h
    all_goals cases h
    · exact List.not_mem_nil
    · exact List.not_mem_nil
    · exact List.not_mem_nil
    · simpa using hc.symm
  | plain =>
    simp only [step] at h
    repeat' split at h
    all_goals cases h
    · exact List.not_mem_nil
    · exact List.not_mem_nil
    · exact List.not_mem_nil
    · exact List.not_mem_nil
    · exact List.not_mem_nil
    · simpa using hc.symm

theorem nul_not_mem_close? (hresolve : ∀ name, '\x00' ∉ (resolve name).toList) {mode : Mode}
    {added : List Char} (h : close? resolve mode = some added) : '\x00' ∉ added := by
  unfold close? at h
  split at h
  · cases h
    exact List.not_mem_nil
  · cases h
    exact List.not_mem_nil
  · cases h
    exact List.not_mem_nil
  · cases h
    exact hresolve _
  all_goals cases h

theorem nul_not_mem_scan (hresolve : ∀ name, '\x00' ∉ (resolve name).toList) {mode : Mode}
    {index : Nat} {cs value : List Char} (hcs : '\x00' ∉ cs)
    (h : scan resolve mode index cs = .ok value) : '\x00' ∉ value := by
  induction cs generalizing mode index value with
  | nil =>
    rw [scan] at h
    split at h
    next added hclose =>
      obtain rfl := Except.ok.inj h
      exact nul_not_mem_close? hresolve hclose
    next => cases h
  | cons c cs ih =>
    rw [List.mem_cons, not_or] at hcs
    obtain ⟨hc, hcs⟩ := hcs
    rw [scan] at h
    split at h
    next next added hstep =>
      cases hrest : scan resolve next (index + 1) cs with
      | error stop =>
        rw [hrest] at h
        cases h
      | ok rest =>
        rw [hrest] at h
        obtain rfl := Except.ok.inj h
        rw [List.mem_append, not_or]
        exact ⟨nul_not_mem_added hresolve (Ne.symm hc) hstep, ih hcs hrest⟩
    next =>
      obtain rfl := Except.ok.inj h
      exact List.not_mem_nil
    next => cases h

theorem nul_not_mem_read (hresolve : ∀ name, '\x00' ∉ (resolve name).toList) {cs : List Char}
    (hcs : '\x00' ∉ cs) {value : String} (h : read resolve cs = .ok value) :
    '\x00' ∉ value.toList := by
  rw [read] at h
  split at h
  next chars hscan =>
    obtain rfl := Except.ok.inj h
    rw [String.toList_ofList]
    exact nul_not_mem_scan hresolve hcs hscan
  next => cases h
  next => cases h

end Value

namespace Cursor

variable {c d : Cursor} {key : String} {x : Char}

theorem mem_of_mem_skip {accepts : Char → Bool} (h : x ∈ (c.skip accepts).rest) : x ∈ c.rest :=
  List.dropWhile_subset accepts h

theorem mem_of_mem_key? (h : c.key? = some (key, d)) (hx : x ∈ d.rest) : x ∈ c.rest := by
  rw [key?] at h
  split at h
  next first rest hrest =>
    split at h
    · obtain ⟨-, rfl⟩ := Prod.mk.inj (Option.some.inj h)
      exact mem_of_mem_skip (mem_of_mem_skip hx)
    · cases h
  next => cases h

theorem mem_of_mem_equals? (h : c.equals? = some d) (hx : x ∈ d.rest) : x ∈ c.rest := by
  rw [equals?] at h
  split at h
  next rest hrest =>
    obtain rfl := Option.some.inj h
    rw [hrest]
    exact List.mem_cons_of_mem _ hx
  next => cases h

end Cursor

namespace Assignment

variable {line : List Char} {c d : Cursor} {key : String} {x : Char}

theorem expect_eq_ok_iff {α : Type} {found : Option α} {a : α} :
    expect line c found = .ok a ↔ found = some a := by
  cases found <;> simp [expect]

theorem bind_eq_ok_iff {α β : Type} {r : Except Problem α} {f : α → Except Problem β} {b : β} :
    (r >>= f) = .ok b ↔ ∃ a, r = .ok a ∧ f a = .ok b := by
  cases r with
  | error p =>
    constructor
    · intro h
      cases h
    · rintro ⟨a, h, -⟩
      cases h
  | ok a =>
    constructor
    · intro h
      exact ⟨a, rfl, h⟩
    · rintro ⟨a', h, hf⟩
      obtain rfl := Except.ok.inj h
      exact hf

theorem mem_of_mem_readKey (h : readKey line c = .ok (key, d)) (hx : x ∈ d.rest) :
    x ∈ c.rest := by
  obtain ⟨⟨first, c₁⟩, hfirst, h⟩ := bind_eq_ok_iff.1 h
  have hfirst := expect_eq_ok_iff.1 hfirst
  dsimp only at h
  split at h
  next c₂ hequals =>
    obtain ⟨rfl, rfl⟩ := Prod.mk.inj (Except.ok.inj h)
    exact Cursor.mem_of_mem_key? hfirst (Cursor.mem_of_mem_equals? hequals hx)
  next =>
    split at h
    · obtain ⟨⟨second, c₂⟩, hsecond, h⟩ := bind_eq_ok_iff.1 h
      obtain ⟨c₃, hequals, h⟩ := bind_eq_ok_iff.1 h
      obtain ⟨rfl, rfl⟩ := Prod.mk.inj (Except.ok.inj h)
      have hx := Cursor.mem_of_mem_equals? (expect_eq_ok_iff.1 hequals) hx
      exact Cursor.mem_of_mem_key? hfirst (Cursor.mem_of_mem_key? (expect_eq_ok_iff.1 hsecond) hx)
    · cases h

/-- A value holds a NUL character only if the line or the value of a variable does. -/
theorem nul_not_mem_value {resolve : String → String}
    (hresolve : ∀ name, '\x00' ∉ (resolve name).toList) (hline : '\x00' ∉ line)
    {a : Assignment} (h : read resolve line = .ok (some a)) : '\x00' ∉ a.value.toList := by
  rw [read] at h
  split at h
  · cases h
  next =>
    obtain ⟨⟨key, c⟩, hkey, h⟩ := bind_eq_ok_iff.1 h
    dsimp only at h
    split at h
    · cases h
      simp
    · obtain ⟨value, hvalue, h⟩ := bind_eq_ok_iff.1 h
      cases h
      refine Value.nul_not_mem_read hresolve (fun hnul => hline ?_) hvalue
      have hstart := Cursor.mem_of_mem_skip (mem_of_mem_readKey hkey (Cursor.mem_of_mem_skip hnul))
      rw [trimEnd, List.mem_reverse] at hstart
      exact List.mem_reverse.1 (List.dropWhile_subset isBlank hstart)

end Assignment

namespace Loading

variable {l l' : Loading}

/-- There is no NUL character in a value that can be substituted. -/
structure NulFree (l : Loading) : Prop where
  env : l.env.NulFree
  given : ∀ entry ∈ l.given, '\x00' ∉ entry.2.toList

theorem NulFree.resolve (hl : l.NulFree) (name : String) : '\x00' ∉ (l.resolve name).toList := by
  rw [Loading.resolve]
  split
  next value hvalue => exact hl.env.textAfter? hvalue
  next =>
    cases hfind : l.given.find? (·.1 = name) with
    | none => simp
    | some entry => exact hl.given entry (List.mem_of_find?_eq_some hfind)

theorem NulFree.assign (hl : l.NulFree) {a : Assignment} (ha : '\x00' ∉ a.value.toList) :
    ∃ l', l.assign a = .ok l' ∧ l'.NulFree := by
  have hgiven : ∀ entry ∈ (a.key, a.value) :: l.given, '\x00' ∉ entry.2.toList := by
    intro entry hentry
    obtain rfl | hentry := List.mem_cons.1 hentry
    · exact ha
    · exact hl.given entry hentry
  rw [Loading.assign]
  split
  · exact ⟨_, rfl, hl.env, hgiven⟩
  · rw [if_pos (by simpa [storable] using ha)]
    exact ⟨_, rfl, hl.env.set ha, hgiven⟩

theorem NulFree.line (hl : l.NulFree) {s : RawText} (hs : s.NulFree) :
    (∃ l', l.line s = .ok l' ∧ l'.NulFree) ∨ ∃ f, l.line s = .error f ∧ f ≠ .unstorable := by
  cases s with
  | bytes b => exact .inr ⟨.notText, rfl, by simp⟩
  | text s =>
    rw [Loading.line]
    cases hread : Assignment.read l.resolve s.toList with
    | error p => exact .inr ⟨.line p, rfl, by simp⟩
    | ok a =>
      cases a with
      | none => exact .inl ⟨l, rfl, hl⟩
      | some a => exact .inl (hl.assign (Assignment.nul_not_mem_value hl.resolve hs hread))

theorem NulFree.lines (hl : l.NulFree) {ss : List RawText} (hss : ∀ s ∈ ss, s.NulFree) :
    (l.lines ss).2 ≠ some .unstorable := by
  induction ss generalizing l with
  | nil => simp [Loading.lines]
  | cons s ss ih =>
    have hrest : ∀ s ∈ ss, s.NulFree := fun s hs => hss s (List.mem_cons_of_mem _ hs)
    rw [Loading.lines]
    obtain ⟨l', hline, hl'⟩ | ⟨f, hline, hf⟩ := hl.line (hss s List.mem_cons_self)
    · rw [hline]
      exact ih hl' hrest
    · rw [hline]
      simpa using hf

/-- Lines that load are texts. -/
theorem text_of_lines {ss : List RawText} (h : (l.lines ss).2 = none) :
    ∀ s ∈ ss, ∃ t, s = .text t := by
  induction ss generalizing l with
  | nil => simp
  | cons s ss ih =>
    rw [Loading.lines] at h
    split at h
    next l' hline =>
      intro t ht
      obtain rfl | ht := List.mem_cons.1 ht
      · cases t with
        | text t => exact ⟨t, rfl⟩
        | bytes b => cases hline
      · exact ih h t ht
    next => cases h

end Loading

theorem nulFree_of_mem_lines {content s : RawText} (hcontent : content.NulFree)
    (hs : s ∈ content.lines) : s.NulFree := by
  cases content with
  | text whole =>
    obtain ⟨cs, hcs, rfl⟩ := List.mem_map.1 hs
    intro hnul
    rw [String.toList_ofList] at hnul
    exact hcontent (mem_of_mem_linesBy hcs hnul)
  | bytes b =>
    obtain ⟨part, hpart, rfl⟩ := List.mem_map.1 hs
    have hzero : 0 ∉ part := fun h => hcontent (mem_of_mem_linesBy hpart h)
    rw [RawText.ofBytes]
    split
    next t ht =>
      intro hnul
      refine hzero (Utf8.nul_mem_of_mem_scan ?_)
      rw [Utf8.decode?_eq_some_iff.1 ht]
      exact List.mem_map_of_mem hnul
    next => exact hzero

/-- Every value of a proper file can be stored. -/
theorem load_ne_unstorable {env : Environment} {found : FileState} (henv : env.NulFree)
    (hfound : found.Proper) : (load env found).2 ≠ some .unstorable := by
  cases found with
  | missing => simp [load]
  | directory => simp [load]
  | file content =>
    have hl : Loading.NulFree ⟨env, []⟩ := ⟨henv, by simp⟩
    exact hl.lines fun s hs => nulFree_of_mem_lines hfound.2 hs

/-- A file that has been loaded can be checked. -/
theorem exists_check_eq_ok {env : Environment} {found : FileState} (hfound : found.Proper)
    (h : (load env found).2 = none) (path : RawText) :
    ∃ warnings, check path found = .ok warnings := by
  cases found with
  | missing => exact ⟨none, rfl⟩
  | directory => cases h
  | file content =>
    cases content with
    | text s => exact ⟨_, rfl⟩
    | bytes b =>
      -- Each line is a text, so the bytes could be read and would not be here.
      have hlines : ∀ part ∈ linesBy (· == 10) (· == 13) b, (Utf8.decode? part).isSome := by
        intro part hpart
        obtain ⟨t, ht⟩ := Loading.text_of_lines h _ (List.mem_map_of_mem hpart)
        rw [RawText.ofBytes] at ht
        split at ht
        next s hs => simp [hs]
        next => cases ht
      have hreadable := Utf8.decode?_isSome_of_lines hlines
      rw [hfound.1] at hreadable
      cases hreadable

end EnvFile

end LoopGauge
