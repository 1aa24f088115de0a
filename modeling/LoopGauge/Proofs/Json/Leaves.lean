import LoopGauge.Proofs.Json.Lexing

/-!
# Numbers and strings as they are read

Every number of the grammar is read as a numeral, and every string as a literal, without anything
wrong about them and without a character of what follows. Only a number needs to know what follows:
it must not go on there.

## Main definitions

* `Stops`: no number goes on in the text.
* `Numeral.ReadAs`, `Literal.ReadAs`: the numeral or the literal of a text, whatever follows.

## Main statements

* `Numeral.exists_readAs`, `exists_literal_readAs`: numbers and strings are read.
-/

namespace LoopGauge.Json

open Number Grammar

variable {c : Char} {cs ds rest gap : List Char}

/-- A number does not go on in what follows. -/
def Stops (rest : List Char) : Prop :=
  ∀ c, rest.head? = some c → ¬isDigit c ∧ c ∉ ['.', 'e', 'E']

theorem stops_nil : Stops [] := nofun

theorem stops_cons (h : ¬isDigit c ∧ c ∉ ['.', 'e', 'E']) (rest : List Char) :
    Stops (c :: rest) := by
  rintro d ⟨⟩
  exact h

theorem Stops.gap_append (hgap : IsGap gap) (h : Stops rest) : Stops (gap ++ rest) := by
  cases gap with
  | nil => exact h
  | cons c gap =>
    have hall : ∀ d ∈ [' ', '\t', '\n', '\r'], ¬isDigit d ∧ d ∉ ['.', 'e', 'E'] := by
      simp [isDigit]
    exact stops_cons (hall c (hgap c List.mem_cons_self)) _

theorem takeWhile_digits_append (hds : ∀ c ∈ ds, c.isDigit)
    (hrest : ∀ c, rest.head? = some c → ¬isDigit c) : (ds ++ rest).takeWhile isDigit = ds :=
  takeWhile_append_of_head hds hrest

namespace Numeral

theorem scanExponent_of_stops (n : Numeral) (h : Stops rest) :
    n.scanExponent rest = (n, rest) := by
  cases rest with
  | nil => rfl
  | cons c rest =>
    obtain ⟨-, hc⟩ := h c rfl
    simp only [List.mem_cons, not_or] at hc
    simp [scanExponent, hc]

theorem scanExponent_append (n : Numeral) (he : IsExponent cs) :
    ∃ m : Numeral, m.breach = n.breach ∧
      ∀ rest, Stops rest → n.scanExponent (cs ++ rest) = (m, rest) := by
  cases he with
  | none => exact ⟨n, rfl, fun rest => n.scanExponent_of_stops⟩
  | @some e sign ds he hsign hds =>
    have hletter : (e == 'e' || e == 'E') = true := by simpa using he
    obtain ⟨d, ds', rfl⟩ := List.exists_cons_of_ne_nil hds.1
    have hd : d.isDigit := hds.2 d List.mem_cons_self
    refine ⟨{ n with exponent := some (sign == ['-'], d :: ds') }, rfl, fun rest hrest => ?_⟩
    have htake := takeWhile_digits_append hds.2 fun c hc => (hrest c hc).1
    rw [List.cons_append] at htake
    have hne {r : List Char} {c : Char} (hc : ¬c.isDigit) : d :: (ds' ++ rest) ≠ c :: r := by
      rintro ⟨⟩
      exact hc hd
    simp only [List.mem_cons, List.not_mem_nil, or_false] at hsign
    unfold scanExponent
    simp only [List.cons_append, List.append_assoc, hletter, if_true]
    obtain rfl | rfl | rfl := hsign
    · split
      next heq => exact absurd heq (hne (by decide))
      next heq => exact absurd heq (hne (by decide))
      next => simp [htake]
    · simp [htake]
    · simp [htake]

theorem scanFraction_of_stops (n : Numeral) (h : Stops rest) :
    n.scanFraction rest = (n, rest) := by
  unfold scanFraction
  split
  next rest => exact absurd rfl fun hdot => (h '.' hdot).2 (by decide)
  next => exact n.scanExponent_of_stops h

/-- Neither digits nor decimals begin where an exponent or what follows a number does. -/
theorem head?_exponent_append (he : IsExponent cs) (hrest : Stops rest) {c : Char}
    (hc : (cs ++ rest).head? = some c) : ¬isDigit c ∧ c ≠ '.' := by
  cases he with
  | none =>
    obtain ⟨hdigit, hletter⟩ := hrest c hc
    exact ⟨hdigit, fun hdot => hletter (hdot ▸ List.mem_cons_self)⟩
  | some he _ _ =>
    obtain rfl := Option.some.inj hc
    have hall : ∀ e ∈ ['e', 'E'], ¬isDigit e ∧ e ≠ '.' := by simp [isDigit]
    exact hall _ he

theorem scanFraction_append (n : Numeral) (hf : IsFraction cs) (he : IsExponent ds) :
    ∃ m : Numeral, m.breach = n.breach ∧
      ∀ rest, Stops rest → n.scanFraction (cs ++ (ds ++ rest)) = (m, rest) := by
  cases hf with
  | none =>
    obtain ⟨m, hm, hscan⟩ := scanExponent_append n he
    refine ⟨m, hm, fun rest hrest => ?_⟩
    unfold scanFraction
    split
    next r heq =>
      exact absurd rfl (head?_exponent_append he hrest (congrArg List.head? heq)).2
    next => exact hscan rest hrest
  | @some ps hps =>
    obtain ⟨m, hm, hscan⟩ := scanExponent_append { n with fraction := some ps } he
    refine ⟨m, hm, fun rest hrest => ?_⟩
    have htake := takeWhile_digits_append hps.2 fun c hc =>
      (head?_exponent_append he hrest hc).1
    have hne : ps.isEmpty = false := by simpa using hps.1
    simp only [List.cons_append, scanFraction, htake, hne, Bool.false_eq_true, if_false,
      List.drop_left]
    exact hscan rest hrest

theorem head?_fraction_append (hf : IsFraction cs) (he : IsExponent ds) (hrest : Stops rest)
    {c : Char} (hc : (cs ++ (ds ++ rest)).head? = some c) : ¬isDigit c := by
  cases hf with
  | none => exact (head?_exponent_append he hrest hc).1
  | some _ =>
    obtain rfl := Option.some.inj hc
    decide

/-- The digits before the point are read as such, with the sign in front of them. -/
theorem scan_whole_append (negative : Bool) {whole : List Char} (hw : IsWhole whole)
    (hrest : ∀ c, rest.head? = some c → ¬isDigit c) :
    Numeral.scan ((if negative then ['-'] else []) ++ (whole ++ rest)) =
      Numeral.scanFraction { negative := negative, whole := whole } rest := by
  obtain ⟨d, ds, rfl⟩ := List.exists_cons_of_ne_nil hw.digits.1
  have hd : d.isDigit := hw.digits.2 d List.mem_cons_self
  have htake := takeWhile_digits_append hw.digits.2 hrest
  have hminus {r : List Char} : d :: (ds ++ rest) ≠ '-' :: r := by
    rintro ⟨⟩
    exact absurd hd (by decide)
  have halone : ∀ e es, d :: ds ≠ '0' :: e :: es := by
    intro e es heq
    have hone := hw.alone (congrArg List.head? heq)
    rw [heq] at hone
    cases hone
  rw [List.cons_append] at htake
  unfold Numeral.scan
  cases negative with
  | false =>
    simp only [Bool.false_eq_true, if_false, List.nil_append, List.cons_append, htake]
    rw [← List.cons_append, List.drop_left]
  | true =>
    simp only [if_true, List.cons_append, List.nil_append, htake]
    rw [← List.cons_append, List.drop_left]

/-- A numeral that is read from a text whatever follows, unless a number goes on there. -/
structure ReadAs (n : Numeral) (cs : List Char) : Prop where
  breach : n.breach = none
  scan : ∀ rest, Stops rest → Numeral.scan (cs ++ rest) = (n, rest)

/-- Every number is read as a numeral. -/
theorem exists_readAs (h : IsNumber cs) : ∃ n : Numeral, n.ReadAs cs := by
  have hparts (negative : Bool) {whole fraction exponent : List Char} (hw : IsWhole whole)
      (hf : IsFraction fraction) (he : IsExponent exponent) : ∃ n : Numeral,
        n.ReadAs ((if negative then ['-'] else []) ++ (whole ++ (fraction ++ exponent))) := by
    obtain ⟨m, hm, hscan⟩ := scanFraction_append { negative := negative, whole := whole } hf he
    refine ⟨m, hm, fun rest hrest => ?_⟩
    have hhead : ∀ c, (fraction ++ (exponent ++ rest)).head? = some c → ¬isDigit c :=
      fun _ => head?_fraction_append hf he hrest
    rw [← hscan rest hrest, ← scan_whole_append negative hw hhead]
    simp only [List.append_assoc]
  cases h with
  | positive hw hf he => simpa using hparts false hw hf he
  | negative hw hf he => simpa using hparts true hw hf he

theorem readAs_wholeText (k : Int) :
    ({ negative := k < 0, whole := digits k.natAbs } : Numeral).ReadAs (wholeText k) where
  breach := rfl
  scan rest hrest := by
    have hscan := scan_whole_append (k < 0) (isWhole_digits k.natAbs) fun c hc => (hrest c hc).1
    rw [scanFraction_of_stops _ hrest] at hscan
    rw [← hscan, wholeText]
    split <;> simp [*]

end Numeral

namespace Literal

variable {a b c d e : Char} {n : Nat} {l : Literal}

theorem scan_plain (hquote : c ≠ '"') (hslash : c ≠ '\\') (hcontrol : 0x20 ≤ c.toNat)
    (cs : List Char) :
    Literal.scan (c :: cs) = ((Literal.scan cs).1.prepend (.char c), (Literal.scan cs).2) := by
  rw [Literal.scan, if_neg (by omega)]
  · exact hquote
  · exact fun h => absurd h hslash
  · exact fun _ _ _ _ _ h => absurd h hslash
  · exact fun _ h => absurd h hslash
  · exact fun _ _ h => absurd h hslash

theorem scan_escape (h : escaped? e = some c) (cs : List Char) :
    Literal.scan ('\\' :: e :: cs) =
      ((Literal.scan cs).1.prepend (.char c), (Literal.scan cs).2) := by
  have hne : e ≠ 'u' := by
    rintro rfl
    cases h
  rw [Literal.scan, h]
  · exact fun _ _ _ _ _ he => absurd he hne
  · exact hne

theorem scan_unicode (h : hexUnit? a b c d = some n) (cs : List Char) :
    Literal.scan ('\\' :: 'u' :: a :: b :: c :: d :: cs) =
      ((Literal.scan cs).1.prepend (.unit n), (Literal.scan cs).2) := by
  rw [Literal.scan, h]

/-- A literal that is read from what stands before a closing quote. -/
structure ReadAs (l : Literal) (cs : List Char) : Prop where
  breach : l.breach = none
  scan : ∀ rest, Literal.scan (cs ++ '"' :: rest) = (l, rest)

theorem readAs_nil : ReadAs ⟨[], none⟩ [] := ⟨rfl, fun _ => rfl⟩

variable (hl : l.ReadAs cs)
include hl

theorem ReadAs.plain (hquote : c ≠ '"') (hslash : c ≠ '\\') (hcontrol : 0x20 ≤ c.toNat) :
    (l.prepend (.char c)).ReadAs (c :: cs) where
  breach := hl.breach
  scan rest := by rw [List.cons_append, scan_plain hquote hslash hcontrol, hl.scan]

theorem ReadAs.escape (h : escaped? e = some c) :
    (l.prepend (.char c)).ReadAs ('\\' :: e :: cs) where
  breach := hl.breach
  scan rest := by rw [List.cons_append, List.cons_append, scan_escape h, hl.scan]

theorem ReadAs.unicode (h : hexUnit? a b c d = some n) :
    (l.prepend (.unit n)).ReadAs ('\\' :: 'u' :: a :: b :: c :: d :: cs) where
  breach := hl.breach
  scan rest := by simp only [List.cons_append, scan_unicode h, hl.scan]

end Literal

theorem exists_hexValue (h : IsHexDigit c) : ∃ n, hexValue? c = some n := by
  rw [hexValue?]
  split_ifs with hdigit hlower hupper
  · exact ⟨_, rfl⟩
  · exact ⟨_, rfl⟩
  · exact ⟨_, rfl⟩
  · obtain h | h | h := h
    · exact absurd h hdigit
    · exact absurd (by simpa using h) hlower
    · exact absurd (by simpa using h) hupper

theorem exists_hexUnit {c₁ c₂ c₃ c₄ : Char} (h₁ : IsHexDigit c₁) (h₂ : IsHexDigit c₂)
    (h₃ : IsHexDigit c₃) (h₄ : IsHexDigit c₄) : ∃ n, hexUnit? c₁ c₂ c₃ c₄ = some n := by
  obtain ⟨n₁, h₁⟩ := exists_hexValue h₁
  obtain ⟨n₂, h₂⟩ := exists_hexValue h₂
  obtain ⟨n₃, h₃⟩ := exists_hexValue h₃
  obtain ⟨n₄, h₄⟩ := exists_hexValue h₄
  exact ⟨_, by rw [hexUnit?, h₁, h₂, h₃, h₄]; rfl⟩

/-- Whatever may stand between quotes is read as a literal. -/
theorem exists_literal_readAs (h : IsInner cs) : ∃ l : Literal, l.ReadAs cs := by
  induction h with
  | nil => exact ⟨_, Literal.readAs_nil⟩
  | plain hquote hslash hcontrol _ ih =>
    obtain ⟨l, hl⟩ := ih
    exact ⟨_, hl.plain hquote hslash hcontrol⟩
  | @escape e cs he _ ih =>
    obtain ⟨l, hl⟩ := ih
    have hall : ∀ e ∈ ['"', '\\', '/', 'b', 'f', 'n', 'r', 't'], (escaped? e).isSome := by
      simp [escaped?]
    obtain ⟨c, hc⟩ := Option.isSome_iff_exists.1 (hall e he)
    exact ⟨_, hl.escape hc⟩
  | unicode h₁ h₂ h₃ h₄ _ ih =>
    obtain ⟨l, hl⟩ := ih
    obtain ⟨n, hn⟩ := exists_hexUnit h₁ h₂ h₃ h₄
    exact ⟨_, hl.unicode hn⟩

/-- A number begins with a digit or a minus sign. -/
theorem exists_cons_of_isNumber (h : IsNumber cs) :
    ∃ c ds, cs = c :: ds ∧ (c = '-' ∨ isDigit c) := by
  cases h with
  | positive hw _ _ =>
    obtain ⟨d, ds, rfl⟩ := List.exists_cons_of_ne_nil hw.digits.1
    exact ⟨d, _, rfl, .inr (hw.digits.2 d List.mem_cons_self)⟩
  | negative _ _ _ => exact ⟨'-', _, rfl, .inl rfl⟩

/-- A digit or a minus sign begins a numeral. -/
theorem Lexeme.next_of_number (hc : c = '-' ∨ isDigit c) (rest : List Char) :
    Lexeme.next c rest = (.number (Numeral.scan (c :: rest)).1, (Numeral.scan (c :: rest)).2) := by
  have hall : ∀ d ∈ ['[', ']', '\x7b', '\x7d', ',', ':', '"', 'n', 't', 'f'],
      ¬(d = '-' ∨ isDigit d) := by simp [isDigit]
  have hne : ∀ d ∈ ['[', ']', '\x7b', '\x7d', ',', ':', '"', 'n', 't', 'f'], ¬(c == d) := by
    intro d hd heq
    exact hall d hd (eq_of_beq heq ▸ hc)
  simp only [List.forall_mem_cons, Bool.not_eq_true] at hne
  obtain ⟨h₁, h₂, h₃, h₄, h₅, h₆, h₇, h₈, h₉, h₀, -⟩ := hne
  have hnumber : (c == '-' || isDigit c) = true := by simpa using hc
  rw [Lexeme.next]
  simp only [h₁, h₂, h₃, h₄, h₅, h₆, h₇, h₈, h₉, h₀, hnumber, Bool.false_eq_true, if_false, if_true]

end LoopGauge.Json
