import LoopGauge.Proofs.Json.Keys
import LoopGauge.Proofs.Json.Layout
import LoopGauge.Proofs.Json.Reading
import Mathlib.Data.List.Forall2

/-!
# What trees say

Reading a text that stands for a value gives a tree that says this value: the same words, numbers
and strings, and the same items and entries in the same order.

## Main definitions

* `Value.Fits`: the whole numbers of the value are of 64 bits.
* `Says t v`: the tree says the value.

## Main statements

* `says_whole_iff`: the number that is said under a key.
* `exists_says`: a text that stands for a value is read as a tree that says it.
-/

namespace LoopGauge.Json

open Number Grammar

/-- Whole numbers beyond 64 bits are read as real numbers, so a value must have none of them. -/
inductive Value.Fits : Value → Prop where
  | null : Fits .null
  | flag (b : Bool) : Fits (.flag b)
  | whole {n : Int} (hlow : -(twoTo 63 : Int) ≤ n) (hhigh : n ≤ wordLimit) : Fits (.whole n)
  | real (x : Binary64) : Fits (.real x)
  | text (s : String) : Fits (.text s)
  | array {vs : List Value} (h : ∀ v ∈ vs, v.Fits) : Fits (.array vs)
  | object {es : List (String × Value)} (h : ∀ e ∈ es, e.2.Fits) : Fits (.object es)

/-- The value that a tree says. A finite real number is there as its one spelling. -/
inductive Says : Tree → Value → Prop where
  | null : Says (.word .null none) .null
  | yes : Says (.word .yes none) (.flag true)
  | no : Says (.word .no none) (.flag false)
  | whole {n : Numeral} {k : Int} (h : n.value = .ok (.whole k)) : Says (.number n) (.whole k)
  | real {n : Numeral} {x : Binary64} (hfinite : x.isFinite) (h : n.ReadAs (spelling.text x)) :
      Says (.number n) (.real x)
  | notFinite {x : Binary64} (h : ¬x.isFinite) : Says (.word .null none) (.real x)
  | text {l : Literal} {s : String} (h : l.value = .ok s) : Says (.text l) (.text s)
  | array {ts : List Tree} {vs : List Value} (hlength : ts.length = vs.length)
      (h : ∀ p ∈ ts.zip vs, Says p.1 p.2) : Says (.array ts .closed) (.array vs)
  | object {ts : List (Literal × Tree)} {es : List (String × Value)}
      (hlength : ts.length = es.length) (hkeys : ∀ p ∈ ts.zip es, p.1.1.value = .ok p.2.1)
      (hvalues : ∀ p ∈ ts.zip es, Says p.1.2 p.2.2) : Says (.object ts .closed) (.object es)

/-- An entry with a key and a value for it. -/
def SaysEntry (t : Literal × Tree) (e : String × Value) : Prop :=
  t.1.value = .ok e.1 ∧ Says t.2 e.2

theorem says_array_iff {t : Tree} {vs : List Value} :
    Says t (.array vs) ↔ ∃ ts, t = .array ts .closed ∧ List.Forall₂ Says ts vs := by
  constructor
  · rintro ⟨⟩
    next hlength h => exact ⟨_, rfl, List.forall₂_iff_zip.2 ⟨hlength, fun hp => h _ hp⟩⟩
  · rintro ⟨ts, rfl, h⟩
    exact .array h.length_eq fun p hp => (List.forall₂_iff_zip.1 h).2 hp

theorem says_object_iff {t : Tree} {es : List (String × Value)} :
    Says t (.object es) ↔ ∃ ts, t = .object ts .closed ∧ List.Forall₂ SaysEntry ts es := by
  constructor
  · rintro ⟨⟩
    next hlength hkeys hvalues =>
      exact ⟨_, rfl, List.forall₂_iff_zip.2 ⟨hlength, fun hp => ⟨hkeys _ hp, hvalues _ hp⟩⟩⟩
  · rintro ⟨ts, rfl, h⟩
    have hall : ∀ p ∈ ts.zip es, SaysEntry p.1 p.2 := fun p hp => (List.forall₂_iff_zip.1 h).2 hp
    exact .object h.length_eq (fun p hp => (hall p hp).1) fun p hp => (hall p hp).2

theorem Says.whole_inj {t : Tree} {m n : Int} (hm : Says t (.whole m)) (hn : Says t (.whole n)) :
    m = n := by
  cases hm with
  | whole hm =>
    cases hn with
    | whole hn => exact Numeral.Reading.whole.inj (Except.ok.inj (hm.symm.trans hn))

/-- Under a key that an object has once, exactly its number is said. -/
theorem says_whole_iff {ts : List (Literal × Tree)} {es : List (String × Value)} {key : String}
    {m n : Int} (h : List.Forall₂ SaysEntry ts es) (hkeys : (es.map Prod.fst).Nodup)
    (hfind : find? key es = some (.whole m)) :
    (∃ t ∈ ts, t.1.value = .ok key ∧ Says t.2 (.whole n)) ↔ n = m := by
  constructor
  · rintro ⟨t, ht, hkey, hsays⟩
    obtain ⟨⟨name, v⟩, hzip⟩ := Grammar.exists_mem_zip h.length_eq.symm ht
    obtain ⟨hname, hvalue⟩ : SaysEntry t (name, v) := (List.forall₂_iff_zip.1 h.flip).2 hzip
    obtain rfl : name = key := Except.ok.inj (hname.symm.trans hkey)
    have hfound := (find?_eq_some_iff hkeys).2 (List.of_mem_zip hzip).1
    obtain rfl : v = .whole m := Option.some.inj (hfound.symm.trans hfind)
    exact hsays.whole_inj hvalue
  · rintro rfl
    obtain ⟨t, hzip⟩ := Grammar.exists_mem_zip h.length_eq ((find?_eq_some_iff hkeys).1 hfind)
    exact ⟨t, (List.of_mem_zip hzip).1, (List.forall₂_iff_zip.1 h).2 hzip⟩

section Numbers

/-- Digits of a number that fits a word are all taken. -/
theorem Numeral.takeWord_eq {acc : Nat} {ds : List Char}
    (h : Nat.ofDigitChars 10 ds acc ≤ wordLimit) :
    takeWord acc ds = (Nat.ofDigitChars 10 ds acc, []) := by
  induction ds generalizing acc with
  | nil => rfl
  | cons c cs ih =>
    have hnext : acc * 10 + (c.toNat - 48) = 10 * acc + (c.toNat - '0'.toNat) := by
      rw [Nat.mul_comm]
      rfl
    rw [Nat.ofDigitChars_cons, ← hnext] at h ⊢
    have hle := (le_ofDigitChars _ cs).trans h
    simp only [takeWord]
    rw [if_neg (by omega), ih h]

/-- A whole number of 64 bits is what its numeral stands for. -/
theorem Numeral.value_whole {k : Int} (hlow : -(twoTo 63 : Int) ≤ k) (hhigh : k ≤ wordLimit) :
    ({ negative := k < 0, whole := digits k.natAbs } : Numeral).value = .ok (.whole k) := by
  have hlimit : twoTo 63 ≤ wordLimit := by decide
  have htake : takeWord 0 (digits k.natAbs) = (k.natAbs, []) := by
    rw [takeWord_eq (by rw [ofDigitChars_digits]; omega), ofDigitChars_digits]
  -- Only a negative number is asked whether it fits a signed word.
  obtain hneg | hneg := Int.lt_or_le k 0
  · have hvalue : value { negative := k < 0, whole := digits k.natAbs } =
        .ok (.whole (-(k.natAbs : Int))) := by
      have hrange : (decide (k.natAbs = 0) || decide (twoTo 63 < k.natAbs)) = false := by
        simp only [Bool.or_eq_false_iff, decide_eq_false_iff_not]
        omega
      simp only [value, htake, hneg, hrange, Option.isSome_none, List.isEmpty_nil, decide_true,
        Bool.not_true, Bool.or_false, Bool.false_eq_true, if_false]
    rw [hvalue, show -(k.natAbs : Int) = k by omega]
  · have hvalue : value { negative := k < 0, whole := digits k.natAbs } =
        .ok (.whole k.natAbs) := by
      simp only [value, htake, Int.not_lt.2 hneg, Option.isSome_none, List.isEmpty_nil,
        decide_false, Bool.not_true, Bool.not_false, Bool.or_false, Bool.false_eq_true, if_false,
        if_true]
    rw [hvalue, show (k.natAbs : Int) = k by omega]

end Numbers

section Strings

theorem not_isSurrogate (c : Char) :
    ¬Literal.isTrailing c.toNat ∧ ¬Literal.isLeading c.toNat := by
  have hvalid : c.toNat < 0xD800 ∨ 0xDFFF < c.toNat ∧ c.toNat < 0x110000 := c.valid
  simp only [Literal.isTrailing, Literal.isLeading, Bool.and_eq_true, decide_eq_true_eq]
  omega

/-- What stands between quotes for some characters is read as a literal of them. -/
theorem exists_literal {s cs : List Char} (h : IsInnerOf s cs) :
    ∃ l : Literal, l.ReadAs cs ∧ Literal.chars none l.pieces = .ok s := by
  induction h with
  | nil => exact ⟨_, Literal.readAs_nil, rfl⟩
  | plain hquote hslash hcontrol _ ih =>
    obtain ⟨l, hl, hchars⟩ := ih
    refine ⟨_, hl.plain hquote hslash hcontrol, ?_⟩
    simp [Literal.prepend, Literal.chars, hchars, Except.map]
  | @escape e c s cs hc _ ih =>
    obtain ⟨l, hl, hchars⟩ := ih
    have hall : ∀ p ∈ escapes, escaped? p.1 = some p.2 := by decide
    refine ⟨_, hl.escape (hall (e, c) hc), ?_⟩
    simp [Literal.prepend, Literal.chars, hchars, Except.map]
  | @unicode c _ _ _ _ s cs hc _ ih =>
    obtain ⟨l, hl, hchars⟩ := ih
    obtain ⟨htrailing, hleading⟩ := not_isSurrogate c
    refine ⟨_, hl.unicode hc, ?_⟩
    unfold Literal.prepend Literal.chars
    simp [htrailing, hleading, hchars, Except.map]
  | @pair c _ _ _ _ _ _ _ _ m n s cs hm hn hleading htrailing hc _ ih =>
    obtain ⟨l, hl, hchars⟩ := ih
    -- Two units are read, and only when they are put together do they make one character.
    refine ⟨_, (hl.unicode hn).unicode hm, ?_⟩
    have h₁ : Literal.isTrailing (0xD800 + m) = false := by
      simp [Literal.isTrailing]
      omega
    have h₂ : Literal.isLeading (0xD800 + m) = true := by
      simp [Literal.isLeading]
      omega
    have h₃ : Literal.isTrailing (0xDC00 + n) = true := by
      simp [Literal.isTrailing]
      omega
    simp [Literal.prepend, Literal.chars, h₁, h₂, h₃, hchars, Except.map, ← hc]

/-- A spelling of a string is read as a literal of it. -/
theorem exists_literal_of_isTextOf {s : String} {cs : List Char} (h : IsTextOf s cs) :
    ∃ (l : Literal) (inner : List Char), cs = '"' :: (inner ++ ['"']) ∧ l.ReadAs inner ∧
      l.value = .ok s := by
  obtain ⟨h⟩ := h
  obtain ⟨l, hl, hchars⟩ := exists_literal h
  refine ⟨l, _, rfl, hl, ?_⟩
  rw [Literal.value, hl.breach, hchars, Except.map, String.ofList_toList]

end Strings

section Parts

variable {X : Type} {cs : List Char}

/-- Items are read one by one, whatever is to be known about each of them. -/
theorem exists_spellsItems {R : Tree → X → Prop} {texts : List (List Char)} {xs : List X}
    (h : IsItemsOf texts cs)
    (hxs : List.Forall₂ (fun text x => ∃ t, Spells text t ∧ R t x) texts xs) :
    ∃ ts, SpellsItems cs ts ∧ List.Forall₂ R ts xs := by
  induction h generalizing xs with
  | last hbefore hafter =>
    obtain _ | ⟨⟨t, ht, hx⟩, ⟨⟩⟩ := hxs
    exact ⟨[t], .last hbefore ht hafter, .cons hx .nil⟩
  | more hbefore hafter _ ih =>
    obtain _ | ⟨⟨t, ht, hx⟩, hxs⟩ := hxs
    obtain ⟨ts, hts, hall⟩ := ih hxs
    exact ⟨t :: ts, .more hbefore ht hafter hts, .cons hx hall⟩

theorem exists_spells_of_isArrayOf {R : Tree → X → Prop} {texts : List (List Char)} {xs : List X}
    (h : IsArrayOf texts cs)
    (hxs : List.Forall₂ (fun text x => ∃ t, Spells text t ∧ R t x) texts xs) :
    ∃ ts, Spells cs (.array ts .closed) ∧ List.Forall₂ R ts xs := by
  cases h with
  | empty hgap =>
    cases hxs
    exact ⟨[], .emptyArray hgap, .nil⟩
  | items h =>
    obtain ⟨ts, hts, hall⟩ := exists_spellsItems h hxs
    exact ⟨ts, .array hts, hall⟩

variable {R : Tree → String × X → Prop} {members : List (String × List Char)}
  {xs : List (String × X)}

/-- Entries are read one by one under their keys, whatever is to be known about each of them. -/
theorem exists_spellsEntries (h : IsEntriesOf members cs)
    (hxs : List.Forall₂ (fun m x => m.1 = x.1 ∧ ∃ t, Spells m.2 t ∧ R t x) members xs) :
    ∃ es, SpellsEntries cs es ∧
      List.Forall₂ (fun e x => e.1.value = .ok x.1 ∧ R e.2 x) es xs := by
  induction h generalizing xs with
  | last hbefore hkey hgap hgap' hafter =>
    obtain _ | ⟨⟨heq, t, ht, hx⟩, ⟨⟩⟩ := hxs
    obtain ⟨l, _, rfl, hl, hvalue⟩ := exists_literal_of_isTextOf hkey
    exact ⟨[(l, t)], .last hbefore hl hgap hgap' ht hafter, .cons ⟨heq ▸ hvalue, hx⟩ .nil⟩
  | more hbefore hkey hgap hgap' hafter _ ih =>
    obtain _ | ⟨⟨heq, t, ht, hx⟩, hxs⟩ := hxs
    obtain ⟨l, _, rfl, hl, hvalue⟩ := exists_literal_of_isTextOf hkey
    obtain ⟨es, hes, hall⟩ := ih hxs
    exact ⟨(l, t) :: es, .more hbefore hl hgap hgap' ht hafter hes,
      .cons ⟨heq ▸ hvalue, hx⟩ hall⟩

theorem exists_spells_of_isObjectOf (h : IsObjectOf members cs)
    (hxs : List.Forall₂ (fun m x => m.1 = x.1 ∧ ∃ t, Spells m.2 t ∧ R t x) members xs) :
    ∃ es, Spells cs (.object es .closed) ∧
      List.Forall₂ (fun e x => e.1.value = .ok x.1 ∧ R e.2 x) es xs := by
  cases h with
  | empty hgap =>
    cases hxs
    exact ⟨[], .emptyObject hgap, .nil⟩
  | entries h =>
    obtain ⟨es, hes, hall⟩ := exists_spellsEntries h hxs
    exact ⟨es, .object hes, hall⟩

end Parts

/-- A text that stands for a value is read as a tree that says it, wherever a value may stand. -/
theorem exists_spells {v : Value} {cs : List Char} (h : Denotes v cs) (hv : v.Fits) :
    ∃ t, Spells cs t ∧ Says t v := by
  induction h with
  | null => exact ⟨_, .null, .null⟩
  | true => exact ⟨_, .yes, .yes⟩
  | false => exact ⟨_, .no, .no⟩
  | whole k =>
    obtain _ | _ | ⟨hlow, hhigh⟩ := hv
    exact ⟨_, .number (isNumber_wholeText k) (Numeral.readAs_wholeText k),
      .whole (Numeral.value_whole hlow hhigh)⟩
  | @real x hfinite =>
    obtain ⟨n, hn⟩ := Numeral.exists_readAs (isNumber_text spelling x)
    exact ⟨_, .number (isNumber_text spelling x) hn, .real hfinite hn⟩
  | notFinite hfinite => exact ⟨_, .null, .notFinite hfinite⟩
  | text h =>
    obtain ⟨l, _, rfl, hl, hvalue⟩ := exists_literal_of_isTextOf h
    exact ⟨_, .text hl, .text hvalue⟩
  | array h hlength _ ih =>
    obtain _ | _ | _ | _ | _ | hv := hv
    have hparts := List.forall₂_iff_zip.2
      ⟨hlength, fun hp => ih _ hp (hv _ (List.of_mem_zip hp).1)⟩
    obtain ⟨ts, hts, hall⟩ := exists_spells_of_isArrayOf h hparts.flip
    exact ⟨_, hts, says_array_iff.2 ⟨ts, rfl, hall⟩⟩
  | object h hlength hkeys _ ih =>
    obtain _ | _ | _ | _ | _ | _ | hv := hv
    have hparts := List.forall₂_iff_zip.2 ⟨hlength, fun hp =>
      And.intro (hkeys _ hp).symm (ih _ hp (hv _ (List.of_mem_zip hp).1))⟩
    obtain ⟨es, hes, hall⟩ := exists_spells_of_isObjectOf (R := fun t e => Says t e.2) h hparts.flip
    exact ⟨_, hes, says_object_iff.2 ⟨es, rfl, hall⟩⟩

/-- A text that stands for a value is read as a tree that says it. -/
theorem exists_says {v : Value} {cs : List Char} (h : Denotes v cs) (hv : v.Fits) :
    ∃ t, Document.read (String.ofList cs) = ⟨t, false⟩ ∧ Says t v := by
  obtain ⟨t, ht, hsays⟩ := exists_spells h hv
  exact ⟨t, ht.read_alone, hsays⟩

end LoopGauge.Json
