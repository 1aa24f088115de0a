import LoopGauge.Json.Tree
import LoopGauge.Proofs.Json.Grammar

/-!
# Cutting a text into lexemes

A lexeme takes the first character of what is left and more, so that there are never more lexemes
than characters, and a text can be read lexeme by lexeme without counting them.

## Main statements

* `Lexeme.next_suffix`: what is left after a lexeme is the end of what was there.
* `Lexeme.scan_cons`: the lexemes of a text are its first one and those of what is left.
* `Lexeme.scan_gap_append`: blanks between lexemes do not matter.
-/

namespace LoopGauge.Json

open Number Grammar

variable {c : Char} {cs rest after gap : List Char} {l : Lexeme}

theorem Numeral.scanExponent_suffix (n : Numeral) (cs : List Char) :
    (n.scanExponent cs).2 <:+ cs := by
  unfold scanExponent
  split
  next c rest =>
    split
    · split
      next minus after hsign =>
        -- Behind the letter there may be a sign.
        have hafter : after <:+ rest := by
          split at hsign
          · cases hsign
            exact List.suffix_cons _ _
          · cases hsign
            exact List.suffix_cons _ _
          · cases hsign
            exact List.suffix_rfl
        have hrest := hafter.trans (List.suffix_cons c rest)
        dsimp only
        split
        · exact hrest
        · exact (List.drop_suffix _ _).trans hrest
    · exact List.suffix_rfl
  · exact List.suffix_rfl

theorem Numeral.scanFraction_suffix (n : Numeral) (cs : List Char) :
    (n.scanFraction cs).2 <:+ cs := by
  unfold scanFraction
  split
  next rest =>
    dsimp only
    split
    · exact List.suffix_cons _ _
    · exact (scanExponent_suffix _ _).trans
        ((List.drop_suffix _ _).trans (List.suffix_cons _ _))
  · exact scanExponent_suffix n _

/-- A numeral takes at least the character it starts with. -/
theorem Numeral.scan_suffix (hc : c = '-' ∨ isDigit c) (rest : List Char) :
    (Numeral.scan (c :: rest)).2 <:+ rest := by
  unfold Numeral.scan
  split
  next minus after hsign =>
    have hafter : after.drop (after.takeWhile isDigit).length <:+ rest ∧
        (after.takeWhile isDigit = [] → after <:+ rest) := by
      split at hsign
      next r heq =>
        obtain ⟨-, rfl⟩ := List.cons.inj heq
        obtain ⟨-, rfl⟩ := Prod.mk.inj hsign
        exact ⟨List.drop_suffix _ _, fun _ => List.suffix_rfl⟩
      next hne =>
        obtain ⟨-, rfl⟩ := Prod.mk.inj hsign
        have hdigit : isDigit c := hc.resolve_left fun h => hne rest (h ▸ rfl)
        rw [List.takeWhile_cons_of_pos hdigit, List.length_cons, List.drop_succ_cons]
        exact ⟨List.drop_suffix _ _, nofun⟩
    dsimp only
    split
    next hnil => exact hafter.2 hnil
    next hzero => exact hzero ▸ hafter.1
    next hne hzero => exact (scanFraction_suffix _ _).trans hafter.1

theorem Literal.scan_suffix (cs : List Char) : (Literal.scan cs).2 <:+ cs := by
  fun_induction Literal.scan cs with
  | case1 => exact List.suffix_rfl
  | case2 rest => exact List.suffix_cons _ _
  | case3 => exact List.suffix_cons _ _
  | case4 a b c d rest n hn l rest' hscan ih =>
    rw [hscan] at ih
    exact ih.trans (List.suffix_append ['\\', 'u', a, b, c, d] rest)
  | case5 a b c d rest hn => exact List.suffix_append ['\\', 'u', a, b, c, d] rest
  | case6 rest => exact List.suffix_append ['\\', 'u'] rest
  | case7 e rest hu hshort c hc l rest' hscan ih =>
    rw [hscan] at ih
    exact ih.trans (List.suffix_append ['\\', e] rest)
  | case8 e rest hu hshort hc => exact List.suffix_append ['\\', e] rest
  | case9 c rest => exact List.suffix_cons _ _
  | case10 c rest hquote hend hunicode hshort hslash hcontrol l rest' hscan ih =>
    rw [hscan] at ih
    exact ih.trans (List.suffix_cons _ _)

theorem scanWord_suffix (letters cs : List Char) : (scanWord letters cs).2 <:+ cs := by
  induction letters generalizing cs with
  | nil => exact List.suffix_rfl
  | cons l ls ih =>
    cases cs with
    | nil => exact List.suffix_rfl
    | cons c rest =>
      rw [scanWord]
      split
      · exact (ih rest).trans (List.suffix_cons _ _)
      · exact List.suffix_cons _ _

/-- What follows a lexeme is the end of what followed its first character. -/
theorem Lexeme.next_suffix (c : Char) (rest : List Char) : (Lexeme.next c rest).2 <:+ rest := by
  have hword {letters after : List Char} {b : Option Breach}
      (h : scanWord letters rest = (b, after)) : after <:+ rest := by
    have hafter := scanWord_suffix letters rest
    rwa [h] at hafter
  fun_cases Lexeme.next c rest
  case case7 l after hscan =>
    have hafter := Literal.scan_suffix rest
    rwa [hscan] at hafter
  case case8 hscan | case9 hscan | case10 hscan => exact hword hscan
  case case11 hc n after hscan =>
    have hafter := Numeral.scan_suffix (by simpa using hc) rest
    rwa [hscan] at hafter
  all_goals exact List.suffix_rfl

/-- The number of lexemes that may be read does not matter if there is one for each character. -/
theorem Lexeme.scanUpTo_eq_scan {count : Nat} (h : cs.length ≤ count) :
    Lexeme.scanUpTo count cs = Lexeme.scan cs := by
  have hagree : ∀ m n (cs : List Char), cs.length ≤ m → cs.length ≤ n →
      Lexeme.scanUpTo m cs = Lexeme.scanUpTo n cs := by
    intro m
    induction m with
    | zero =>
      intro n cs hm hn
      obtain rfl := List.eq_nil_of_length_eq_zero (Nat.le_zero.1 hm)
      cases n <;> rfl
    | succ m ih =>
      intro n cs hm hn
      cases n with
      | zero =>
        obtain rfl := List.eq_nil_of_length_eq_zero (Nat.le_zero.1 hn)
        rfl
      | succ n =>
        rw [Lexeme.scanUpTo, Lexeme.scanUpTo]
        have hle := (List.dropWhile_suffix (l := cs) isSpace).length_le
        split
        · rfl
        next c rest hdrop =>
          have hnext := (Lexeme.next_suffix c rest).length_le
          rw [hdrop, List.length_cons] at hle
          dsimp only
          rw [ih n _ (by omega) (by omega)]
  exact hagree count cs.length cs h le_rfl

theorem Lexeme.scan_nil : Lexeme.scan [] = [] := rfl

theorem Lexeme.scan_cons (hc : ¬isSpace c) (hnext : Lexeme.next c rest = (l, after))
    (hl : l.breach? = none) : Lexeme.scan (c :: rest) = l :: Lexeme.scan after := by
  have hafter := (Lexeme.next_suffix c rest).length_le
  rw [hnext] at hafter
  rw [Lexeme.scan, List.length_cons, Lexeme.scanUpTo, List.dropWhile_cons_of_neg hc]
  simp only [hnext, hl, Option.isSome_none, Bool.false_eq_true, if_false]
  rw [Lexeme.scanUpTo_eq_scan hafter]

theorem Lexeme.scan_cons_of_isSpace (hc : isSpace c) (rest : List Char) :
    Lexeme.scan (c :: rest) = Lexeme.scan rest := by
  have hrest : Lexeme.scan rest = Lexeme.scanUpTo (rest.length + 1) rest :=
    (Lexeme.scanUpTo_eq_scan (Nat.le_succ _)).symm
  rw [hrest, Lexeme.scan, List.length_cons, Lexeme.scanUpTo, Lexeme.scanUpTo,
    List.dropWhile_cons_of_pos hc]

theorem isSpace_of_mem (h : c ∈ [' ', '\t', '\n', '\r']) : isSpace c := by
  have hall : ∀ d ∈ [' ', '\t', '\n', '\r'], isSpace d := by simp [isSpace]
  exact hall c h

theorem Lexeme.scan_gap_append (hgap : IsGap gap) (rest : List Char) :
    Lexeme.scan (gap ++ rest) = Lexeme.scan rest := by
  induction gap with
  | nil => rfl
  | cons c gap ih =>
    obtain ⟨hc, hgap⟩ := List.forall_mem_cons.1 hgap
    rw [List.cons_append, Lexeme.scan_cons_of_isSpace (isSpace_of_mem hc), ih hgap]

end LoopGauge.Json
