import LoopGauge.Json.Lexeme
import LoopGauge.Proofs.Json.Grammar

/-!
# Texts of JSON values

Which texts stand for a value: strings may be spelled with escapes wherever one likes, and blanks
may stand between the parts of lists and objects. Both ways of writing a value, on one line and with
one entry a line, give such a text.

## Main definitions

* `Grammar.IsTextOf`: the spellings of a string.
* `Grammar.IsArrayOf`, `Grammar.IsObjectOf`: lists and objects with the given texts as their parts.
* `Grammar.Denotes v cs`: the text stands for the value.

## Main statements

* `Grammar.Denotes.isValue`: a text that stands for a value is a value of the grammar.
* `Value.induction`: induction over the items of lists and the values of objects.
* `denotes_compact`, `denotes_pretty`: what is written of a value stands for it.
* `isValue_pretty`: every value is written as a value of the grammar.
-/

namespace LoopGauge.Json

open Number

namespace Grammar

/-- The letters of one-letter escapes, with the characters they stand for. -/
def escapes : List (Char × Char) :=
  [('"', '"'), ('\\', '\\'), ('/', '/'), ('b', '\x08'), ('f', '\x0c'), ('n', '\n'), ('r', '\r'),
    ('t', '\t')]

/-- Characters, and what may stand for them between quotes. -/
inductive IsInnerOf : List Char → List Char → Prop where
  | nil : IsInnerOf [] []
  | plain {c : Char} {s cs : List Char} (hquote : c ≠ '"') (hslash : c ≠ '\\')
      (hcontrol : 0x20 ≤ c.toNat) (h : IsInnerOf s cs) : IsInnerOf (c :: s) (c :: cs)
  | escape {e c : Char} {s cs : List Char} (hc : (e, c) ∈ escapes) (h : IsInnerOf s cs) :
      IsInnerOf (c :: s) ('\\' :: e :: cs)
  | unicode {c c₁ c₂ c₃ c₄ : Char} {s cs : List Char} (hc : hexUnit? c₁ c₂ c₃ c₄ = some c.toNat)
      (h : IsInnerOf s cs) : IsInnerOf (c :: s) ('\\' :: 'u' :: c₁ :: c₂ :: c₃ :: c₄ :: cs)
  /-- A character beyond the basic plane as a pair of surrogates. -/
  | pair {c c₁ c₂ c₃ c₄ d₁ d₂ d₃ d₄ : Char} {m n : Nat} {s cs : List Char}
      (hm : hexUnit? c₁ c₂ c₃ c₄ = some (0xD800 + m))
      (hn : hexUnit? d₁ d₂ d₃ d₄ = some (0xDC00 + n)) (hleading : m < 0x400)
      (htrailing : n < 0x400) (hc : c.toNat = 0x10000 + m * 0x400 + n) (h : IsInnerOf s cs) :
      IsInnerOf (c :: s) ('\\' :: 'u' :: c₁ :: c₂ :: c₃ :: c₄ :: '\\' :: 'u' :: d₁ :: d₂ :: d₃ ::
        d₄ :: cs)

inductive IsTextOf : String → List Char → Prop where
  | quoted {s : String} {cs : List Char} (h : IsInnerOf s.toList cs) :
      IsTextOf s ('"' :: (cs ++ ['"']))

/-- Texts with commas between them and blanks around them. -/
inductive IsItemsOf : List (List Char) → List Char → Prop where
  | last {before cs after : List Char} (hbefore : IsGap before) (hafter : IsGap after) :
      IsItemsOf [cs] (before ++ cs ++ after)
  | more {before cs after rest : List Char} {texts : List (List Char)} (hbefore : IsGap before)
      (hafter : IsGap after) (hrest : IsItemsOf texts rest) :
      IsItemsOf (cs :: texts) (before ++ cs ++ after ++ ',' :: rest)

/-- An array of the given texts. -/
inductive IsArrayOf : List (List Char) → List Char → Prop where
  | empty {gap : List Char} (h : IsGap gap) : IsArrayOf [] ('[' :: (gap ++ [']']))
  | items {texts : List (List Char)} {cs : List Char} (h : IsItemsOf texts cs) :
      IsArrayOf texts ('[' :: (cs ++ [']']))

/-- Keys with the texts of their values, with commas between them and blanks wherever they may
stand. -/
inductive IsEntriesOf : List (String × List Char) → List Char → Prop where
  | last {k : String} {before key gap gap' cs after : List Char} (hbefore : IsGap before)
      (hkey : IsTextOf k key) (hgap : IsGap gap) (hgap' : IsGap gap') (hafter : IsGap after) :
      IsEntriesOf [(k, cs)] (before ++ key ++ gap ++ ':' :: (gap' ++ cs ++ after))
  | more {k : String} {before key gap gap' cs after rest : List Char}
      {members : List (String × List Char)} (hbefore : IsGap before) (hkey : IsTextOf k key)
      (hgap : IsGap gap) (hgap' : IsGap gap') (hafter : IsGap after)
      (hrest : IsEntriesOf members rest) :
      IsEntriesOf ((k, cs) :: members)
        (before ++ key ++ gap ++ ':' :: (gap' ++ cs ++ after ++ ',' :: rest))

/-- An object of the given keys with the given texts as their values. -/
inductive IsObjectOf : List (String × List Char) → List Char → Prop where
  | empty {gap : List Char} (h : IsGap gap) : IsObjectOf [] ('{' :: (gap ++ ['}']))
  | entries {members : List (String × List Char)} {cs : List Char} (h : IsEntriesOf members cs) :
      IsObjectOf members ('{' :: (cs ++ ['}']))

/-- The value that a text stands for. Numbers have one spelling, and real numbers that are not
finite none of their own. -/
inductive Denotes : Value → List Char → Prop where
  | null : Denotes .null "null".toList
  | true : Denotes (.flag Bool.true) "true".toList
  | false : Denotes (.flag Bool.false) "false".toList
  | whole (n : Int) : Denotes (.whole n) (wholeText n)
  | real {x : Binary64} (h : x.isFinite) : Denotes (.real x) (spelling.text x)
  | notFinite {x : Binary64} (h : ¬x.isFinite) : Denotes (.real x) "null".toList
  | text {s : String} {cs : List Char} (h : IsTextOf s cs) : Denotes (.text s) cs
  | array {vs : List Value} {texts : List (List Char)} {cs : List Char} (h : IsArrayOf texts cs)
      (hlength : vs.length = texts.length) (hitems : ∀ p ∈ vs.zip texts, Denotes p.1 p.2) :
      Denotes (.array vs) cs
  | object {es : List (String × Value)} {members : List (String × List Char)} {cs : List Char}
      (h : IsObjectOf members cs) (hlength : es.length = members.length)
      (hkeys : ∀ p ∈ es.zip members, p.1.1 = p.2.1)
      (hvalues : ∀ p ∈ es.zip members, Denotes p.1.2 p.2.2) : Denotes (.object es) cs

theorem isHexDigit_of_hexValue {c : Char} {n : Nat} (h : hexValue? c = some n) :
    IsHexDigit c := by
  unfold hexValue? at h
  split_ifs at h with hdigit hlower hupper
  · exact .inl hdigit
  · exact .inr (.inl (by simpa using hlower))
  · exact .inr (.inr (by simpa using hupper))

theorem isHexDigit_of_hexUnit {c₁ c₂ c₃ c₄ : Char} {n : Nat} (h : hexUnit? c₁ c₂ c₃ c₄ = some n) :
    IsHexDigit c₁ ∧ IsHexDigit c₂ ∧ IsHexDigit c₃ ∧ IsHexDigit c₄ := by
  simp only [hexUnit?, Option.bind_eq_bind, Option.bind_eq_some_iff] at h
  obtain ⟨_, h₁, _, h₂, _, h₃, _, h₄, -⟩ := h
  exact ⟨isHexDigit_of_hexValue h₁, isHexDigit_of_hexValue h₂, isHexDigit_of_hexValue h₃,
    isHexDigit_of_hexValue h₄⟩

theorem IsInnerOf.isInner {s cs : List Char} (h : IsInnerOf s cs) : IsInner cs := by
  induction h with
  | nil => exact .nil
  | plain hquote hslash hcontrol _ ih => exact .plain hquote hslash hcontrol ih
  | escape hc _ ih =>
    have hall : ∀ p ∈ escapes, p.1 ∈ ['"', '\\', '/', 'b', 'f', 'n', 'r', 't'] := by decide
    exact .escape (hall _ hc) ih
  | unicode hc _ ih =>
    obtain ⟨h₁, h₂, h₃, h₄⟩ := isHexDigit_of_hexUnit hc
    exact .unicode h₁ h₂ h₃ h₄ ih
  | pair hm hn _ _ _ _ ih =>
    -- The grammar does not know of surrogates: a pair of them is two escapes there.
    obtain ⟨h₁, h₂, h₃, h₄⟩ := isHexDigit_of_hexUnit hm
    obtain ⟨h₅, h₆, h₇, h₈⟩ := isHexDigit_of_hexUnit hn
    exact .unicode h₁ h₂ h₃ h₄ (.unicode h₅ h₆ h₇ h₈ ih)

theorem IsTextOf.isText {s : String} {cs : List Char} (h : IsTextOf s cs) : IsText cs := by
  obtain ⟨h⟩ := h
  exact .quoted h.isInner

theorem IsItemsOf.isItems {texts : List (List Char)} {cs : List Char} (h : IsItemsOf texts cs)
    (hvalues : ∀ text ∈ texts, IsValue text) : IsItems cs := by
  induction h with
  | last hbefore hafter => exact .last hbefore (hvalues _ List.mem_cons_self) hafter
  | more hbefore hafter _ ih =>
    rw [List.forall_mem_cons] at hvalues
    exact .more hbefore hvalues.1 hafter (ih hvalues.2)

theorem IsArrayOf.isValue {texts : List (List Char)} {cs : List Char} (h : IsArrayOf texts cs)
    (hvalues : ∀ text ∈ texts, IsValue text) : IsValue cs := by
  cases h with
  | empty hgap => exact .emptyArray hgap
  | items h => exact .array (h.isItems hvalues)

theorem IsEntriesOf.isEntries {members : List (String × List Char)} {cs : List Char}
    (h : IsEntriesOf members cs) (hvalues : ∀ m ∈ members, IsValue m.2) : IsEntries cs := by
  induction h with
  | last hbefore hkey hgap hgap' hafter =>
    exact .last hbefore hkey.isText hgap hgap' (hvalues _ List.mem_cons_self) hafter
  | more hbefore hkey hgap hgap' hafter _ ih =>
    rw [List.forall_mem_cons] at hvalues
    exact .more hbefore hkey.isText hgap hgap' hvalues.1 hafter (ih hvalues.2)

theorem IsObjectOf.isValue {members : List (String × List Char)} {cs : List Char}
    (h : IsObjectOf members cs) (hvalues : ∀ m ∈ members, IsValue m.2) : IsValue cs := by
  cases h with
  | empty hgap => exact .emptyObject hgap
  | entries h => exact .object (h.isEntries hvalues)

theorem exists_mem_zip {α β : Type} {as : List α} {bs : List β} {b : β}
    (hlength : as.length = bs.length) (hb : b ∈ bs) : ∃ a, (a, b) ∈ as.zip bs := by
  rw [← List.map_snd_zip hlength.ge, List.mem_map] at hb
  obtain ⟨⟨a, b⟩, hab, rfl⟩ := hb
  exact ⟨a, hab⟩

/-- A text that stands for a value is a value of the grammar. -/
theorem Denotes.isValue {v : Value} {cs : List Char} (h : Denotes v cs) : IsValue cs := by
  induction h with
  | null => exact .null
  | true => exact .true
  | false => exact .false
  | whole n => exact .number (isNumber_wholeText n)
  | real _ => exact .number (isNumber_text _ _)
  | notFinite _ => exact .null
  | text h => exact .text h.isText
  | array h hlength _ ih =>
    refine h.isValue fun text htext => ?_
    obtain ⟨v, hv⟩ := exists_mem_zip hlength htext
    exact ih _ hv
  | object h hlength _ _ ih =>
    refine h.isValue fun m hm => ?_
    obtain ⟨e, he⟩ := exists_mem_zip hlength hm
    exact ih _ he

end Grammar

open Grammar

theorem isGap_newLine (level : Nat) : IsGap (newLine level) := by
  intro c hc
  obtain rfl | hc := List.mem_cons.1 hc
  · decide
  · rw [List.eq_of_mem_replicate hc]
    decide

theorem isInnerOf_escape (c : Char) {s cs : List Char} (h : IsInnerOf s cs) :
    IsInnerOf (c :: s) (escape c ++ cs) := by
  have hletter {e : Char} (hc : (e, c) ∈ escapes) : IsInnerOf (c :: s) (['\\', e] ++ cs) :=
    .escape hc h
  unfold escape
  split_ifs with hquote hslash h₁ h₂ h₃ h₄ h₅ hcontrol
  iterate 7
    · subst c
      exact hletter (by decide)
  · have hall : ∀ n < 0x20, hexUnit? '0' '0' (hexDigit (n / 16)) (hexDigit (n % 16)) = some n := by
      decide
    exact .unicode (hall c.toNat hcontrol) h
  · exact .plain hquote hslash (by omega) h

theorem isTextOf_quote (s : String) : IsTextOf s (quote s) := by
  refine .quoted ?_
  induction s.toList with
  | nil => exact .nil
  | cons c cs ih =>
    rw [List.flatMap_cons]
    exact isInnerOf_escape c ih

theorem denotes_flagText (b : Bool) : Denotes (.flag b) (flagText b) := by
  cases b
  · exact .false
  · exact .true

theorem denotes_realText (x : Binary64) : Denotes (.real x) (realText x) := by
  rw [realText]
  split
  next h => exact .real h
  next h => exact .notFinite h

/-- Induction over values: lists from their items, objects from the values of their entries. -/
@[elab_as_elim]
theorem Value.induction {P : Value → Prop} (null : P .null) (flag : ∀ b, P (.flag b))
    (whole : ∀ n, P (.whole n)) (real : ∀ x, P (.real x)) (text : ∀ s, P (.text s))
    (array : ∀ vs, (∀ v ∈ vs, P v) → P (.array vs))
    (object : ∀ es, (∀ e ∈ es, P e.2) → P (.object es)) : ∀ v, P v
  | .null => null
  | .flag b => flag b
  | .whole n => whole n
  | .real x => real x
  | .text s => text s
  | .array vs => array vs fun v _ => induction null flag whole real text array object v
  | .object es => object es fun e _ => induction null flag whole real text array object e.2
termination_by v => sizeOf v
decreasing_by
  -- An entry is larger than its value, and a list is larger than what is in it.
  · have hlt := List.sizeOf_lt_of_mem ‹v ∈ vs›
    simp only [Value.array.sizeOf_spec]
    omega
  · have hlt := List.sizeOf_lt_of_mem ‹e ∈ es›
    have hvalue : sizeOf e.2 < sizeOf e := by
      cases e
      simp only [Prod.mk.sizeOf_spec]
      omega
    simp only [Value.object.sizeOf_spec]
    omega

theorem mem_zip_map {α β : Type} {f : α → β} {l : List α} {p : α × β}
    (h : p ∈ l.zip (l.map f)) : p.1 ∈ l ∧ p.2 = f p.1 := by
  obtain ⟨i, hi, rfl⟩ := List.mem_iff_getElem.1 h
  simp

/-- Lists are written part by part. -/
theorem Grammar.Denotes.array_map {f : Value → List Char} {vs : List Value} {cs : List Char}
    (h : IsArrayOf (vs.map f) cs) (hvs : ∀ v ∈ vs, Denotes v (f v)) : Denotes (.array vs) cs := by
  refine .array h (by simp) fun p hp => ?_
  rw [(mem_zip_map hp).2]
  exact hvs p.1 (mem_zip_map hp).1

/-- Objects are written part by part. -/
theorem Grammar.Denotes.object_map {f : Value → List Char} {es : List (String × Value)}
    {cs : List Char} (h : IsObjectOf (es.map fun e => (e.1, f e.2)) cs)
    (hes : ∀ e ∈ es, Denotes e.2 (f e.2)) : Denotes (.object es) cs := by
  refine .object h (by simp) (fun p hp => ?_) fun p hp => ?_
  · rw [(mem_zip_map hp).2]
  · rw [(mem_zip_map hp).2]
    exact hes p.1 (mem_zip_map hp).1

section Compact

theorem isItemsOf_compact (v : Value) (vs : List Value) :
    IsItemsOf ((v :: vs).map compact) (compact v ++ compactItems vs) := by
  induction vs generalizing v with
  | nil =>
    have hlast : IsItemsOf [compact v] ([] ++ compact v ++ []) := .last isGap_nil isGap_nil
    simpa [compactItems] using hlast
  | cons u us ih =>
    have hmore : IsItemsOf (compact v :: (u :: us).map compact)
        ([] ++ compact v ++ [] ++ ',' :: (compact u ++ compactItems us)) :=
      .more isGap_nil isGap_nil (ih u)
    simpa [compactItems] using hmore

theorem isEntriesOf_compact (key : String) (v : Value) (es : List (String × Value)) :
    IsEntriesOf (((key, v) :: es).map fun e => (e.1, compact e.2))
      (quote key ++ ':' :: (compact v ++ compactEntries es)) := by
  induction es generalizing key v with
  | nil =>
    have hlast : IsEntriesOf [(key, compact v)]
        ([] ++ quote key ++ [] ++ ':' :: ([] ++ compact v ++ [])) :=
      .last isGap_nil (isTextOf_quote key) isGap_nil isGap_nil isGap_nil
    simpa [compactEntries] using hlast
  | cons e es ih =>
    have hmore : IsEntriesOf ((key, compact v) :: (e :: es).map fun e => (e.1, compact e.2))
        ([] ++ quote key ++ [] ++ ':' :: ([] ++ compact v ++ [] ++
          ',' :: (quote e.1 ++ ':' :: (compact e.2 ++ compactEntries es)))) :=
      .more isGap_nil (isTextOf_quote key) isGap_nil isGap_nil isGap_nil (ih e.1 e.2)
    simpa [compactEntries] using hmore

theorem isArrayOf_compact (vs : List Value) : IsArrayOf (vs.map compact) (compact (.array vs)) := by
  cases vs with
  | nil => exact .empty isGap_nil
  | cons v vs => simpa [compact] using IsArrayOf.items (isItemsOf_compact v vs)

theorem isObjectOf_compact (es : List (String × Value)) :
    IsObjectOf (es.map fun e => (e.1, compact e.2)) (compact (.object es)) := by
  cases es with
  | nil => exact .empty isGap_nil
  | cons e es => simpa [compact] using IsObjectOf.entries (isEntriesOf_compact e.1 e.2 es)

/-- The text of a value on one line stands for it. -/
theorem denotes_compact (v : Value) : Denotes v (compact v) := by
  induction v using Value.induction with
  | null => exact .null
  | flag b => exact denotes_flagText b
  | whole n => exact .whole n
  | real x => exact denotes_realText x
  | text s => exact .text (isTextOf_quote s)
  | array vs ih => exact .array_map (isArrayOf_compact vs) ih
  | object es ih => exact .object_map (isObjectOf_compact es) ih

end Compact

section Pretty

variable {close : List Char}

theorem isItemsOf_pretty (level : Nat) (hclose : IsGap close) (v : Value) (vs : List Value) :
    IsItemsOf ((v :: vs).map (pretty level))
      (newLine level ++ pretty level v ++ prettyItems level vs ++ close) := by
  induction vs generalizing v with
  | nil =>
    have hlast : IsItemsOf [pretty level v] (newLine level ++ pretty level v ++ close) :=
      .last (isGap_newLine level) hclose
    simpa [prettyItems] using hlast
  | cons u us ih =>
    have hmore : IsItemsOf (pretty level v :: (u :: us).map (pretty level))
        (newLine level ++ pretty level v ++ [] ++
          ',' :: (newLine level ++ pretty level u ++ prettyItems level us ++ close)) :=
      .more (isGap_newLine level) isGap_nil (ih u)
    simpa [prettyItems] using hmore

theorem isEntriesOf_pretty (level : Nat) (hclose : IsGap close) (key : String) (v : Value)
    (es : List (String × Value)) :
    IsEntriesOf (((key, v) :: es).map fun e => (e.1, pretty level e.2))
      (newLine level ++ quote key ++ ':' :: ' ' ::
        (pretty level v ++ prettyEntries level es ++ close)) := by
  have hblank : IsGap [' '] := by simp [IsGap]
  induction es generalizing key v with
  | nil =>
    have hlast : IsEntriesOf [(key, pretty level v)]
        (newLine level ++ quote key ++ [] ++ ':' :: ([' '] ++ pretty level v ++ close)) :=
      .last (isGap_newLine level) (isTextOf_quote key) isGap_nil hblank hclose
    simpa [prettyEntries] using hlast
  | cons e es ih =>
    have hmore : IsEntriesOf
        ((key, pretty level v) :: (e :: es).map fun e => (e.1, pretty level e.2))
        (newLine level ++ quote key ++ [] ++ ':' :: ([' '] ++ pretty level v ++ [] ++
          ',' :: (newLine level ++ quote e.1 ++ ':' :: ' ' ::
            (pretty level e.2 ++ prettyEntries level es ++ close)))) :=
      .more (isGap_newLine level) (isTextOf_quote key) isGap_nil hblank isGap_nil (ih e.1 e.2)
    simpa [prettyEntries] using hmore

theorem isArrayOf_pretty (level : Nat) (vs : List Value) :
    IsArrayOf (vs.map (pretty (level + 1))) (pretty level (.array vs)) := by
  cases vs with
  | nil => exact .empty isGap_nil
  | cons v vs =>
    simpa [pretty] using IsArrayOf.items
      (isItemsOf_pretty (level + 1) (isGap_newLine level) v vs)

theorem isObjectOf_pretty (level : Nat) (es : List (String × Value)) :
    IsObjectOf (es.map fun e => (e.1, pretty (level + 1) e.2)) (pretty level (.object es)) := by
  cases es with
  | nil => exact .empty isGap_nil
  | cons e es =>
    simpa [pretty] using IsObjectOf.entries
      (isEntriesOf_pretty (level + 1) (isGap_newLine level) e.1 e.2 es)

/-- The text of a value with one entry a line stands for it. -/
theorem denotes_pretty (level : Nat) (v : Value) : Denotes v (pretty level v) := by
  induction v using Value.induction generalizing level with
  | null => exact .null
  | flag b => exact denotes_flagText b
  | whole n => exact .whole n
  | real x => exact denotes_realText x
  | text s => exact .text (isTextOf_quote s)
  | array vs ih => exact .array_map (isArrayOf_pretty level vs) fun v hv => ih v hv (level + 1)
  | object es ih =>
    exact .object_map (isObjectOf_pretty level es) fun e he => ih e he (level + 1)

/-- Every value is written as a JSON value. -/
theorem isValue_pretty (level : Nat) (v : Value) : IsValue (pretty level v) :=
  (denotes_pretty level v).isValue

end Pretty

end LoopGauge.Json
