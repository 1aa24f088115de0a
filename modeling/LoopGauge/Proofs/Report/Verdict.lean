import LoopGauge.Proofs.Number.Digits
import LoopGauge.Report.Formatter

/-!
# The last line of a report

A report ends with the text of its verdict. Whatever the formatter adds before and after the words
of a verdict, the texts of different verdicts never end in the same way, so the end of a report
tells the verdict.

## Main definitions

* `Verdict.words`: the words of a verdict.
* `Formatter.EndsIn`: a report ends with the text of a verdict.

## Main statements

* `Formatter.endsIn_choose_iff`: a report ends with the text of its verdict and of no other.
-/

namespace LoopGauge

open Number Text

namespace Number

theorem digits_ne_append_cons {n : Nat} {c : Char} {before after : List Char}
    (hc : ¬c.isDigit) : digits n ≠ before ++ c :: after := by
  intro h
  refine hc (isDigit_of_mem_digits (n := n) ?_)
  rw [h]
  exact List.mem_append_right before List.mem_cons_self

/-- The numeral at the end of a text is told by the text. -/
theorem digits_of_append_eq {x y : List Char} {c d : Char} {m n : Nat} (hc : ¬c.isDigit)
    (hd : ¬d.isDigit) (h : x ++ c :: digits m = y ++ d :: digits n) : x = y ∧ m = n := by
  -- Were one numeral longer, it would hold the letter that stands before the other.
  obtain ⟨between, hy, htail⟩ | ⟨between, hx, htail⟩ := List.append_eq_append_iff.1 h
  · cases between with
    | nil =>
      obtain ⟨-, hdigits⟩ := List.cons.inj htail
      exact ⟨by rw [hy, List.append_nil], digits_injective hdigits⟩
    | cons e between =>
      obtain ⟨-, hdigits⟩ := List.cons.inj htail
      exact absurd hdigits (digits_ne_append_cons hd)
  · cases between with
    | nil =>
      obtain ⟨-, hdigits⟩ := List.cons.inj htail
      exact ⟨by rw [hx, List.append_nil], (digits_injective hdigits).symm⟩
    | cons e between =>
      obtain ⟨-, hdigits⟩ := List.cons.inj htail
      exact absurd hdigits (digits_ne_append_cons hc)

end Number

namespace Style.Paint

theorem reopen_eq_self {start cs : List Char} (h : '\x1b' ∉ cs) : reopen start cs = cs := by
  induction cs with
  | nil => rw [reopen]
  | cons c cs ih =>
    rw [List.mem_cons, not_or] at h
    obtain ⟨hc, hcs⟩ := h
    rw [reopen, ih hcs]
    intro rest hescape
    exact absurd hescape.symm hc

/-- A text without escape characters in a colour. -/
theorem toList_apply_of {ink : Ink} {c : Colour} {s : String} (h : '\x1b' ∉ s.toList) :
    ((of c).apply ink s).toList =
      if ink = .bare then s.toList else (of c).opening ink ++ s.toList ++ reset := by
  have hplain : (of c).isPlain = false := rfl
  rw [apply, hplain, Bool.or_false]
  by_cases hink : ink = .bare
  · rw [if_pos (decide_eq_true hink), if_pos hink]
  · rw [if_neg (by simpa using hink), if_neg hink, String.toList_ofList, reopen_eq_self h]

end Style.Paint

namespace Report.Formatter

open Style

variable {f : Formatter} {b : BenchResult} {s : RunSummary} {v u : Verdict} {tail : List Char}

/-- The words of a verdict. -/
def Verdict.words : Verdict → String
  | nothingEnabled => "No sub-tests were enabled"
  | allSucceeded => "All enabled sub-tests succeeded"
  | someFailed failed total => decimal failed ++ " of " ++ decimal total ++ " sub-tests failed"
  | allFailed => "Every enabled sub-test failed"

/-- The tone in which a formatter utters a verdict. -/
def utter (f : Formatter) : Verdict → String → String
  | .nothingEnabled | .someFailed _ _ => f.warning
  | .allSucceeded => f.success
  | .allFailed => f.error

theorem verdictText_eq_utter : f.verdictText v = f.utter v v.words := by
  cases v <;> rfl

theorem escape_not_mem_words (v : Verdict) : '\x1b' ∉ v.words.toList := by
  have hdigits (n : Nat) : '\x1b' ∉ digits n := by
    intro h
    exact absurd (isDigit_of_mem_digits h) (by decide)
  cases v with
  | someFailed failed total => simp [Verdict.words, decimal, hdigits]
  | nothingEnabled => simp [Verdict.words]
  | allSucceeded => simp [Verdict.words]
  | allFailed => simp [Verdict.words]

/-- The last letters of a verdict, which tell verdicts of different kinds apart. -/
def Verdict.ending : Verdict → String
  | nothingEnabled => " enabled"
  | allSucceeded => "ucceeded"
  | someFailed _ _ => "s failed"
  | allFailed => "t failed"

theorem words_eq_append_ending (v : Verdict) :
    ∃ start, v.words.toList = start ++ v.ending.toList := by
  cases v with
  | nothingEnabled => exact ⟨"No sub-tests were".toList, by simp [Verdict.words, Verdict.ending]⟩
  | allSucceeded =>
    exact ⟨"All enabled sub-tests s".toList, by simp [Verdict.words, Verdict.ending]⟩
  | someFailed failed total =>
    exact ⟨(decimal failed ++ " of " ++ decimal total ++ " sub-test").toList,
      by simp [Verdict.words, Verdict.ending]⟩
  | allFailed => exact ⟨"Every enabled sub-tes".toList, by simp [Verdict.words, Verdict.ending]⟩

theorem length_ending (v : Verdict) : v.ending.toList.length = 8 := by
  cases v <;> simp [Verdict.ending]

theorem words_someFailed (failed total : Nat) :
    (Verdict.someFailed failed total).words.toList =
      digits failed ++ ' ' :: 'o' :: 'f' :: ' ' :: digits total ++ " sub-tests failed".toList := by
  simp [Verdict.words, decimal]

/-- The words of a verdict at the end of a text are told by the text. -/
theorem words_of_append_eq {x y : List Char} {c d : Char} (hc : ¬c.isDigit) (hd : ¬d.isDigit)
    (h : x ++ c :: v.words.toList = y ++ d :: u.words.toList) : v = u := by
  have hending : v.ending = u.ending := by
    obtain ⟨start, hv⟩ := words_eq_append_ending v
    obtain ⟨start', hu⟩ := words_eq_append_ending u
    rw [hv, hu, ← List.cons_append, ← List.cons_append, ← List.append_assoc,
      ← List.append_assoc] at h
    have hlength : v.ending.toList.length = u.ending.toList.length := by
      rw [length_ending, length_ending]
    exact String.toList_inj.1 (List.append_inj_right' h hlength)
  cases v with
  | nothingEnabled => cases u <;> first | rfl | simp [Verdict.ending] at hending
  | allSucceeded => cases u <;> first | rfl | simp [Verdict.ending] at hending
  | allFailed => cases u <;> first | rfl | simp [Verdict.ending] at hending
  | someFailed failed total =>
    cases u with
    | nothingEnabled => simp [Verdict.ending] at hending
    | allSucceeded => simp [Verdict.ending] at hending
    | allFailed => simp [Verdict.ending] at hending
    | someFailed failed' total' =>
      rw [words_someFailed, words_someFailed] at h
      simp only [← List.cons_append, ← List.append_assoc] at h
      have hcounts := List.append_cancel_right h
      -- The total is the last numeral, and the number of failures the last one before it.
      have htotal : (x ++ c :: digits failed ++ [' ', 'o', 'f']) ++ ' ' :: digits total =
          (y ++ d :: digits failed' ++ [' ', 'o', 'f']) ++ ' ' :: digits total' := by
        simpa using hcounts
      obtain ⟨hbefore, rfl⟩ := digits_of_append_eq (by decide) (by decide) htotal
      obtain ⟨-, rfl⟩ := digits_of_append_eq hc hd (List.append_cancel_right hbefore)
      rfl

/-- A formatter puts no digit before the words of a verdict, and after them the same for all. -/
def Frames (f : Formatter) (tail : List Char) : Prop :=
  ∀ v, ∃ lead c, ¬c.isDigit ∧ (f.verdictText v).toList = lead ++ c :: (v.words.toList ++ tail)

theorem plain_frames (o : Options) : (plain o).Frames [] := by
  intro v
  rw [verdictText_eq_utter, List.append_nil]
  cases v with
  | nothingEnabled => exact ⟨"WARNING:".toList, ' ', by decide, by simp [utter, plain]⟩
  | allSucceeded => exact ⟨"SUCCESS:".toList, ' ', by decide, by simp [utter, plain]⟩
  | someFailed failed total => exact ⟨"WARNING:".toList, ' ', by decide, by simp [utter, plain]⟩
  | allFailed => exact ⟨"ERROR:".toList, ' ', by decide, by simp [utter, plain]⟩

/-- What follows a text in a colour. -/
def closing (ink : Ink) : List Char := if ink = .bare then [] else Paint.reset

theorem marked_frames (mark : Char) (c : Colour) (ink : Ink) (v : Verdict) :
    ∃ lead d, ¬d.isDigit ∧
      mark :: ' ' :: ((Paint.of c).apply ink v.words).toList =
        lead ++ d :: (v.words.toList ++ closing ink) := by
  rw [Paint.toList_apply_of (escape_not_mem_words v), closing]
  by_cases hink : ink = .bare
  · rw [if_pos hink, if_pos hink]
    exact ⟨[mark], ' ', by decide, by simp⟩
  · rw [if_neg hink, if_neg hink, Paint.opening]
    refine ⟨mark :: ' ' :: '\x1b' :: '[' ::
      (((Paint.of c).codes ink |>.map digits).intersperse [';']).flatten, 'm', by decide, ?_⟩
    simp only [List.cons_append, List.append_assoc, List.nil_append]

theorem coloured_frames (ink : Ink) (o : Options) (ho : o.enableColour) (scheme : Scheme) :
    (coloured ink o scheme).Frames (closing ink) := by
  intro v
  rw [verdictText_eq_utter]
  cases v with
  | nothingEnabled => simpa [utter, coloured, brush, ho] using marked_frames '!' _ ink _
  | allSucceeded => simpa [utter, coloured, brush, ho] using marked_frames '✓' _ ink _
  | someFailed failed total => simpa [utter, coloured, brush, ho] using marked_frames '!' _ ink _
  | allFailed => simpa [utter, coloured, brush, ho] using marked_frames '✗' _ ink _

/-- The text of a verdict at the end of that of another is the same. -/
theorem Frames.eq_of_suffix (hf : f.Frames tail)
    (h : (f.verdictText v).toList <:+ (f.verdictText u).toList) : v = u := by
  obtain ⟨lead, c, hc, hv⟩ := hf v
  obtain ⟨lead', d, hd, hu⟩ := hf u
  obtain ⟨before, heq⟩ := h
  rw [hv, hu, ← List.cons_append, ← List.cons_append, ← List.append_assoc,
    ← List.append_assoc, ← List.append_assoc] at heq
  exact words_of_append_eq hc hd (List.append_cancel_right heq)

/-- A report ends with the text of a verdict. -/
def EndsIn (f : Formatter) (b : BenchResult) (s : RunSummary) (v : Verdict) : Prop :=
  (f.verdictText v).toList <:+ (f.results b s).toList

theorem endsIn_verdict (f : Formatter) (b : BenchResult) (s : RunSummary) :
    f.EndsIn b s (verdict b s) := by
  rw [EndsIn, results, join, String.intercalate_append_of_ne_nil (by simp) (by simp),
    String.intercalate_singleton, String.toList_append]
  exact List.suffix_append _ _

/-- A report ends with the text of its verdict and of no other. -/
theorem endsIn_choose_iff {ink : Ink} {enableColour verbose : Bool} :
    (choose ink enableColour verbose).EndsIn b s v ↔ v = verdict b s := by
  have hframes : ∃ tail, (choose ink enableColour verbose).Frames tail := by
    by_cases hcolour : enableColour
    · rw [choose, if_pos hcolour]
      exact ⟨_, coloured_frames ink _ hcolour {}⟩
    · rw [choose, if_neg hcolour]
      exact ⟨_, plain_frames _⟩
  obtain ⟨tail, hframes⟩ := hframes
  constructor
  · intro h
    obtain hsuffix | hsuffix := List.suffix_or_suffix_of_suffix h (endsIn_verdict _ b s)
    · exact hframes.eq_of_suffix hsuffix
    · exact (hframes.eq_of_suffix hsuffix).symm
  · rintro rfl
    exact endsIn_verdict _ b s

end Report.Formatter

end LoopGauge
