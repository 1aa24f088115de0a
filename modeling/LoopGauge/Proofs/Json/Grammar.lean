import LoopGauge.Json.Text
import LoopGauge.Proofs.Number.Shortest

/-!
# The grammar of JSON

What a JSON text is, said without reference to how values are written, and that numbers are written
as its numbers.

## Main definitions

* `Grammar.IsNumber`, `Grammar.IsText`: numbers and strings.
* `Grammar.IsValue`: a value, with blanks wherever they may stand inside it.

## Main statements

* `isNumber_wholeText`, `isNumber_text`: numbers are written as numbers of the grammar.
-/

namespace LoopGauge.Json

open Number

namespace Grammar

/-- Blanks that may stand between the parts of a value. -/
def IsGap (cs : List Char) : Prop := ∀ c ∈ cs, c ∈ [' ', '\t', '\n', '\r']

def IsDigits (cs : List Char) : Prop := cs ≠ [] ∧ ∀ c ∈ cs, c.isDigit

/-- The digits before the point: a zero stands alone. -/
structure IsWhole (cs : List Char) : Prop where
  digits : IsDigits cs
  alone : cs.head? = some '0' → cs = ['0']

inductive IsFraction : List Char → Prop where
  | none : IsFraction []
  | some {ds : List Char} (h : IsDigits ds) : IsFraction ('.' :: ds)

inductive IsExponent : List Char → Prop where
  | none : IsExponent []
  | some {e : Char} {sign ds : List Char} (he : e ∈ ['e', 'E'])
      (hsign : sign ∈ [[], ['+'], ['-']]) (h : IsDigits ds) : IsExponent (e :: (sign ++ ds))

inductive IsNumber : List Char → Prop where
  | positive {whole fraction exponent : List Char} (hw : IsWhole whole) (hf : IsFraction fraction)
      (he : IsExponent exponent) : IsNumber (whole ++ fraction ++ exponent)
  | negative {whole fraction exponent : List Char} (hw : IsWhole whole) (hf : IsFraction fraction)
      (he : IsExponent exponent) : IsNumber ('-' :: (whole ++ fraction ++ exponent))

def IsHexDigit (c : Char) : Prop :=
  c.isDigit ∨ ('a' ≤ c ∧ c ≤ 'f') ∨ ('A' ≤ c ∧ c ≤ 'F')

instance (c : Char) : Decidable (IsHexDigit c) :=
  inferInstanceAs (Decidable (_ ∨ _ ∨ _))

/-- What may stand between the quotes of a string. -/
inductive IsInner : List Char → Prop where
  | nil : IsInner []
  | plain {c : Char} {cs : List Char} (hquote : c ≠ '"') (hslash : c ≠ '\\')
      (hcontrol : 0x20 ≤ c.toNat) (h : IsInner cs) : IsInner (c :: cs)
  | escape {c : Char} {cs : List Char} (hc : c ∈ ['"', '\\', '/', 'b', 'f', 'n', 'r', 't'])
      (h : IsInner cs) : IsInner ('\\' :: c :: cs)
  | unicode {c₁ c₂ c₃ c₄ : Char} {cs : List Char} (h₁ : IsHexDigit c₁) (h₂ : IsHexDigit c₂)
      (h₃ : IsHexDigit c₃) (h₄ : IsHexDigit c₄) (h : IsInner cs) :
      IsInner ('\\' :: 'u' :: c₁ :: c₂ :: c₃ :: c₄ :: cs)

inductive IsText : List Char → Prop where
  | quoted {cs : List Char} (h : IsInner cs) : IsText ('"' :: (cs ++ ['"']))

mutual

inductive IsValue : List Char → Prop where
  | null : IsValue "null".toList
  | true : IsValue "true".toList
  | false : IsValue "false".toList
  | number {cs : List Char} (h : IsNumber cs) : IsValue cs
  | text {cs : List Char} (h : IsText cs) : IsValue cs
  | emptyArray {gap : List Char} (h : IsGap gap) : IsValue ('[' :: (gap ++ [']']))
  | array {cs : List Char} (h : IsItems cs) : IsValue ('[' :: (cs ++ [']']))
  | emptyObject {gap : List Char} (h : IsGap gap) : IsValue ('{' :: (gap ++ ['}']))
  | object {cs : List Char} (h : IsEntries cs) : IsValue ('{' :: (cs ++ ['}']))

/-- The items of an array that is not empty. -/
inductive IsItems : List Char → Prop where
  | last {before cs after : List Char} (hbefore : IsGap before) (h : IsValue cs)
      (hafter : IsGap after) : IsItems (before ++ cs ++ after)
  | more {before cs after rest : List Char} (hbefore : IsGap before) (h : IsValue cs)
      (hafter : IsGap after) (hrest : IsItems rest) :
      IsItems (before ++ cs ++ after ++ ',' :: rest)

/-- The entries of an object that is not empty. -/
inductive IsEntries : List Char → Prop where
  | last {before key gap gap' cs after : List Char} (hbefore : IsGap before) (hkey : IsText key)
      (hgap : IsGap gap) (hgap' : IsGap gap') (h : IsValue cs) (hafter : IsGap after) :
      IsEntries (before ++ key ++ gap ++ ':' :: (gap' ++ cs ++ after))
  | more {before key gap gap' cs after rest : List Char} (hbefore : IsGap before)
      (hkey : IsText key) (hgap : IsGap gap) (hgap' : IsGap gap') (h : IsValue cs)
      (hafter : IsGap after) (hrest : IsEntries rest) :
      IsEntries (before ++ key ++ gap ++ ':' :: (gap' ++ cs ++ after ++ ',' :: rest))

end

end Grammar

open Grammar

theorem isGap_nil : IsGap [] := nofun

section Numbers

theorem isDigits_digits (n : Nat) : IsDigits (digits n) :=
  ⟨digits_ne_nil n, fun _ => isDigit_of_mem_digits⟩

theorem isWhole_digits (n : Nat) : IsWhole (digits n) where
  digits := isDigits_digits n
  alone h := by
    obtain rfl | hn := Nat.eq_zero_or_pos n
    · rfl
    · exact absurd h (head?_digits_ne hn)

/-- A number from its digits, with the sign in front if it is negative. -/
theorem isNumber_of_signed {whole fraction exponent : List Char} (negative : Bool)
    (hw : IsWhole whole) (hf : IsFraction fraction) (he : IsExponent exponent) :
    IsNumber (if negative then '-' :: (whole ++ fraction ++ exponent)
      else whole ++ fraction ++ exponent) := by
  cases negative
  · exact .positive hw hf he
  · exact .negative hw hf he

theorem isNumber_wholeText (n : Int) : IsNumber (wholeText n) := by
  have h := isNumber_of_signed (decide (n < 0)) (isWhole_digits n.natAbs) .none .none
  simpa [wholeText] using h

/-- The magnitude of a real number has the parts of a number. -/
def IsMagnitude (cs : List Char) : Prop :=
  ∃ whole fraction exponent, IsWhole whole ∧ IsFraction fraction ∧ IsExponent exponent ∧
    cs = whole ++ fraction ++ exponent

variable {s : Scientific}

theorem isDigits_of_subset {ds : List Char} (h : s.Proper) (hne : ds ≠ [])
    (hds : ∀ c ∈ ds, c ∈ s.digits ∨ c = '0') : IsDigits ds := by
  refine ⟨hne, fun c hc => ?_⟩
  obtain hc | rfl := hds c hc
  · exact h.isDigit c hc
  · decide

/-- The digits before the point, filled up with zeros to the place of the point. -/
theorem isWhole_take (h : s.Proper) (places zeros : Nat)
    (hsmall : s.digits.head? = some '0' → places = 0 ∧ zeros = 0) :
    IsWhole (s.digits.take (places + 1) ++ List.replicate zeros '0') := by
  obtain ⟨c, cs, hcs⟩ := List.exists_cons_of_ne_nil h.ne_nil
  rw [hcs, List.take_succ_cons, List.cons_append]
  refine ⟨isDigits_of_subset h (List.cons_ne_nil _ _) fun d hd => ?_, fun hzero => ?_⟩
  · obtain rfl | hd := List.mem_cons.1 hd
    · exact .inl (hcs ▸ List.mem_cons_self)
    obtain hd | hd := List.mem_append.1 hd
    · exact .inl (hcs ▸ List.mem_cons_of_mem c (List.mem_of_mem_take hd))
    · exact .inr (List.eq_of_mem_replicate hd)
  · obtain rfl := Option.some.inj hzero
    obtain ⟨rfl, rfl⟩ := hsmall (hcs ▸ rfl)
    rfl

/-- The digits after the point; one of them there must be. -/
theorem isDigits_decimals (h : s.Proper) (places : Nat) :
    IsDigits (if (s.digits.drop places).isEmpty then ['0'] else s.digits.drop places) := by
  split
  · exact isDigits_digits 0
  next hne =>
    exact isDigits_of_subset h (by simpa using hne) fun c hc => .inl (List.mem_of_mem_drop hc)

theorem isMagnitude_positional (h : s.Proper) : IsMagnitude (Spelling.positional s) := by
  unfold Spelling.positional
  split
  next hnegative =>
    have hdecimals : IsDigits (List.replicate (s.exponent.natAbs - 1) '0' ++ s.digits) := by
      refine isDigits_of_subset h (by simp [h.ne_nil]) fun c hc => ?_
      obtain hc | hc := List.mem_append.1 hc
      · exact .inr (List.eq_of_mem_replicate hc)
      · exact .inl hc
    exact ⟨['0'], _, [], isWhole_digits 0, .some hdecimals, .none, by simp⟩
  next hnonnegative =>
    have hsmall : s.digits.head? = some '0' → s.exponent.natAbs = 0 ∧
        s.exponent.natAbs + 1 - s.digits.length = 0 := by
      intro hzero
      have hexponent := h.small hzero
      have hlength := List.length_pos_of_ne_nil h.ne_nil
      omega
    exact ⟨_, _, [], isWhole_take h _ _ hsmall,
      .some (isDigits_decimals h (s.exponent.natAbs + 1)), .none, by simp⟩

theorem isMagnitude_exponential (h : s.Proper) (sp : Spelling) :
    IsMagnitude (sp.exponential s) := by
  have hwhole : IsWhole (s.digits.take 1) := by
    simpa using isWhole_take h 0 0 fun _ => ⟨rfl, rfl⟩
  have hfraction : IsFraction
      (if (s.digits.drop 1).isEmpty then [] else '.' :: s.digits.drop 1) := by
    have hdecimals := isDigits_decimals h 1
    split
    · exact .none
    next hne =>
      rw [if_neg hne] at hdecimals
      exact .some hdecimals
  have hsign : (if s.exponent < 0 then ['-'] else if sp.plus then ['+'] else []) ∈
      [[], ['+'], ['-']] := by
    split
    · simp
    · split <;> simp
  have hexponent := IsExponent.some List.mem_cons_self hsign (isDigits_digits s.exponent.natAbs)
  exact ⟨_, _, _, hwhole, hfraction, hexponent, by simp [Spelling.exponential]⟩

theorem isNumber_text (sp : Spelling) (x : Binary64) : IsNumber (sp.text x) := by
  have hmagnitude : IsMagnitude (if x.units = 0 then ['0', '.', '0'] else
      if sp.lowest ≤ x.shortest.exponent && x.shortest.exponent ≤ sp.highest then
        Spelling.positional x.shortest else sp.exponential x.shortest) := by
    split
    · exact ⟨['0'], ['.', '0'], [], isWhole_digits 0, .some (isDigits_digits 0), .none, rfl⟩
    next hne =>
      have hproper := Binary64.proper_shortest hne
      split
      · exact isMagnitude_positional hproper
      · exact isMagnitude_exponential hproper sp
  obtain ⟨whole, fraction, exponent, hw, hf, he, heq⟩ := hmagnitude
  have hsigned := isNumber_of_signed x.negative hw hf he
  rw [← heq] at hsigned
  exact hsigned

end Numbers

end LoopGauge.Json
