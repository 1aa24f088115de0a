import LoopGauge.Proofs.Report.Verdict
import LoopGauge.Proofs.Text.Trim
import Mathlib.Data.List.Forall2

/-!
# Text without its style

A style is put on a text by escape sequences, and a reader who takes them out again has the text.
What is taken out of a text that is put together of styled parts is what is taken out of the parts,
as long as no part ends inside a sequence; so styled texts are described together with the text
they show.

## Main definitions

* `unstyled`: a text without its escape sequences.
* `Styles s p`: the text `s` is `p` with escape sequences put in.

## Main statements

* `Styles.unstyled_eq`: without its sequences, a styled text is the text.
* `Paint.styles_apply`: painting only puts in sequences.
* `Styling.trimEnd`: blanks at the end of a styled text are blanks at the end of the text.
-/

namespace LoopGauge.Style

open Number Text

variable {c : Char} {cs ps codes rest : List Char} {s t p q sep : String}

/-- What stands in an escape sequence between its start and its end. -/
def isCode (c : Char) : Bool := c.isDigit || c == ';'

/-- What follows the escape sequence at the front of a text. -/
def afterSequence? : List Char → Option (List Char)
  | '\x1b' :: '[' :: cs =>
    match cs.dropWhile isCode with
    | 'm' :: rest => some rest
    | _ => none
  | _ => none

theorem length_lt_of_afterSequence? (h : afterSequence? cs = some rest) :
    rest.length < cs.length := by
  unfold afterSequence? at h
  split at h
  next cs =>
    split at h
    next after hafter =>
      obtain rfl := Option.some.inj h
      have hle := (List.dropWhile_sublist isCode (l := cs)).length_le
      rw [hafter] at hle
      simp only [List.length_cons] at hle ⊢
      omega
    next => cases h
  next => cases h

theorem afterSequence?_of_ne (hc : c ≠ '\x1b') (cs : List Char) :
    afterSequence? (c :: cs) = none := by
  rw [afterSequence?]
  intro tail h
  exact hc (List.cons.inj h).1

theorem afterSequence?_of_codes (hcodes : ∀ c ∈ codes, isCode c) (cs : List Char) :
    afterSequence? ('\x1b' :: '[' :: (codes ++ 'm' :: cs)) = some cs := by
  have hdrop : (codes ++ 'm' :: cs).dropWhile isCode = 'm' :: cs := by
    rw [List.dropWhile_append_of_pos hcodes, List.dropWhile_cons_of_neg (by decide)]
  simp only [afterSequence?, hdrop]

/-- Letters without the escape sequences among them. -/
def dropSequences : List Char → List Char
  | [] => []
  | c :: cs =>
    match _h : afterSequence? (c :: cs) with
    | some rest => dropSequences rest
    | none => c :: dropSequences cs
termination_by cs => cs.length
decreasing_by
  · exact length_lt_of_afterSequence? ‹_›
  · exact Nat.lt_succ_self cs.length

/-- A text without its escape sequences. -/
def unstyled (s : String) : String := String.ofList (dropSequences s.toList)

/-- Letters with escape sequences among them, and the letters without them. -/
inductive Styling : List Char → List Char → Prop
  | nil : Styling [] []
  | letter {c : Char} {cs ps : List Char} (hc : c ≠ '\x1b') (h : Styling cs ps) :
    Styling (c :: cs) (c :: ps)
  | sequence {codes cs ps : List Char} (hcodes : ∀ c ∈ codes, isCode c) (h : Styling cs ps) :
    Styling ('\x1b' :: '[' :: (codes ++ 'm' :: cs)) ps

namespace Styling

theorem dropSequences_eq (h : Styling cs ps) : dropSequences cs = ps := by
  induction h with
  | nil => rw [dropSequences]
  | letter hc _ ih =>
    rw [dropSequences]
    split
    next rest hrest => rw [afterSequence?_of_ne hc] at hrest; cases hrest
    next => rw [ih]
  | sequence hcodes _ ih =>
    rw [dropSequences]
    split
    next rest hrest =>
      rw [afterSequence?_of_codes hcodes] at hrest
      obtain rfl := Option.some.inj hrest
      exact ih
    next hrest => rw [afterSequence?_of_codes hcodes] at hrest; cases hrest

theorem of_not_mem (h : '\x1b' ∉ cs) : Styling cs cs := by
  induction cs with
  | nil => exact .nil
  | cons c cs ih =>
    rw [List.mem_cons, not_or] at h
    exact .letter (Ne.symm h.1) (ih h.2)

theorem append {cs' ps' : List Char} (h : Styling cs ps) (h' : Styling cs' ps') :
    Styling (cs ++ cs') (ps ++ ps') := by
  induction h with
  | nil => exact h'
  | letter hc _ ih => exact .letter hc ih
  | @sequence codes cs ps hcodes _ ih =>
    have hsequence := Styling.sequence hcodes ih
    simpa using hsequence

/-- Escape sequences hold no line feeds. -/
theorem feed_not_mem (h : Styling cs ps) (hps : '\n' ∉ ps) : '\n' ∉ cs := by
  induction h with
  | nil => exact hps
  | letter hc _ ih =>
    rw [List.mem_cons, not_or] at hps ⊢
    exact ⟨hps.1, ih hps.2⟩
  | sequence hcodes _ ih =>
    simp only [List.mem_cons, List.mem_append, not_or]
    exact ⟨by decide, by decide, fun hmem => absurd (hcodes _ hmem) (by decide), by decide,
      ih hps⟩

/-- Blanks at the end of styled letters are blanks at the end of the letters. -/
theorem trimEnd (h : Styling cs ps) :
    ∃ qs gap, ps = qs ++ gap ∧ (∀ c ∈ gap, isBlank c) ∧ Styling (Text.trimEnd cs) qs := by
  -- From the front: a blank goes only if all behind it goes, and a sequence never goes.
  induction h with
  | nil => exact ⟨[], [], rfl, nofun, .nil⟩
  | @letter c cs ps hc h ih =>
    obtain ⟨qs, gap, rfl, hgap, hqs⟩ := ih
    rw [trimEnd_cons]
    by_cases hall : isBlank c ∧ Text.trimEnd cs = []
    · rw [if_pos hall]
      rw [hall.2] at hqs
      cases hqs
      exact ⟨[], c :: gap, rfl, by simpa [hall.1] using hgap, .nil⟩
    · rw [if_neg hall]
      exact ⟨c :: qs, gap, rfl, hgap, .letter hc hqs⟩
  | @sequence codes cs ps hcodes h ih =>
    obtain ⟨qs, gap, hps, hgap, hqs⟩ := ih
    have htrim : Text.trimEnd ('\x1b' :: '[' :: (codes ++ 'm' :: cs)) =
        '\x1b' :: '[' :: (codes ++ 'm' :: Text.trimEnd cs) :=
      trimEnd_append_cons_of_not ('\x1b' :: '[' :: codes) (by decide) cs
    exact ⟨qs, gap, hps, hgap, htrim ▸ .sequence hcodes hqs⟩

end Styling

/-- A text is another, which has no escape character, with escape sequences put in. -/
def Styles (s p : String) : Prop := Styling s.toList p.toList

namespace Styles

theorem unstyled_eq (h : Styles s p) : unstyled s = p := by
  rw [unstyled, h.dropSequences_eq, String.ofList_toList]

example : unstyled "\x1b[1;31mfault\x1b[0m: none" = "fault: none" := by cbv

theorem of_not_mem (h : '\x1b' ∉ s.toList) : Styles s s := Styling.of_not_mem h

theorem append (h : Styles s p) (h' : Styles t q) : Styles (s ++ t) (p ++ q) := by
  rw [Styles, String.toList_append, String.toList_append]
  exact Styling.append h h'

theorem join {ss ps : List String} (hsep : '\x1b' ∉ sep.toList) (h : List.Forall₂ Styles ss ps) :
    Styles (Text.join sep ss) (Text.join sep ps) := by
  induction h with
  | nil => exact .nil
  | @cons s p ss ps hs htail ih =>
    cases htail with
    | nil => simpa [Text.join] using hs
    | cons hnext htail =>
      rw [Text.join, Text.join, String.intercalate_cons_cons, String.intercalate_cons_cons]
      exact (hs.append (of_not_mem hsep)).append ih

end Styles

namespace Paint

theorem isCode_of_mem_digits {n : Nat} (h : c ∈ digits n) : isCode c := by
  rw [isCode, isDigit_of_mem_digits h, Bool.true_or]

/-- Between the start and the end of a sequence there are codes and semicolons. -/
theorem isCode_of_mem_flatten (ns : List Nat)
    (h : c ∈ ((ns.map digits).intersperse [';']).flatten) : isCode c := by
  induction ns with
  | nil => cases h
  | cons n ns ih =>
    cases ns with
    | nil => exact isCode_of_mem_digits (by simpa using h)
    | cons m ns =>
      rw [List.map_cons, List.map_cons, List.intersperse_cons_cons, List.flatten_cons,
        List.flatten_cons, List.mem_append, List.mem_append] at h
      obtain h | h | h := h
      · exact isCode_of_mem_digits h
      · obtain rfl := List.mem_singleton.1 h
        rfl
      · exact ih h

/-- Painting only puts in sequences. -/
theorem styles_apply (paint : Paint) (ink : Ink) (hs : '\x1b' ∉ s.toList) :
    Styles (paint.apply ink s) s := by
  have htext := Styling.of_not_mem hs
  rw [Styles, apply]
  split
  · exact htext
  · have hreset : Styling reset [] :=
      @Styling.sequence ['0'] [] [] (List.forall_mem_singleton.2 rfl) .nil
    have hstyled := Styling.sequence (fun c => isCode_of_mem_flatten (paint.codes ink))
      (htext.append hreset)
    rw [String.toList_ofList, reopen_eq_self hs, opening]
    simpa using hstyled

end Paint

end LoopGauge.Style
