import LoopGauge.Proofs.Report.Presentation

/-!
# Reports with colours turned off

A coloured formatter whose colours are turned off writes what it would write where no escape
sequences can be written at all, with one exception: a title loses its weight but keeps the colour
of headers. So titles are the only texts in which an escape character can be found.

## Main definitions

* `EscapeFree`: a text without escape characters.
* `Formatter.WritesBody P f`, `Formatter.Writes P f`: what holds of all texts of a formatter,
  titles left out and included.

## Main statements

* `Formatter.unpainted_writes`: where no sequences can be written, no escape character is.
* `Formatter.escapes_without_colour`: with colours off only titles have escape characters.
-/

namespace LoopGauge

open Style Text

theorem Style.Styling.escape_not_mem {cs ps : List Char} (h : Styling cs ps) : '\x1b' ∉ ps := by
  induction h with
  | nil => exact List.not_mem_nil
  | letter hc _ ih => exact List.not_mem_cons_of_ne_of_not_mem (Ne.symm hc) ih
  | sequence _ _ ih => exact ih

namespace Report

variable {s t p : String}

/-- No escape character is in the text. -/
def EscapeFree (s : String) : Prop := '\x1b' ∉ s.toList

instance : Decidable (EscapeFree s) := inferInstanceAs (Decidable ('\x1b' ∉ s.toList))

/-- The text that a styled text shows has no escape characters. -/
theorem Shows.escapeFree (h : Shows s p) : EscapeFree p := by
  obtain ⟨q, hstyles, halike⟩ := h
  exact fun hmem => hstyles.escape_not_mem (halike.symm.mem (by decide) hmem)

namespace Formatter

variable {P : String → Prop} {R : String → String → Prop} {f g : Formatter}

/-- All that a formatter writes besides titles has a property. Messages, which come from outside,
are free of escape characters. -/
structure WritesBody (P : String → Prop) (f : Formatter) : Prop where
  runSummary : ∀ s, P (f.runSummary s)
  latencyTable : ∀ b enabled, P (f.latencyTable b enabled)
  throughputTable : ∀ b enabled, P (f.throughputTable b enabled)
  quickSummary : ∀ b s, P (f.quickSummary b s)
  error : ∀ text, EscapeFree text → P (f.error text)
  warning : ∀ text, EscapeFree text → P (f.warning text)
  success : ∀ text, EscapeFree text → P (f.success text)

/-- All that a formatter writes has a property, titles included. -/
structure Writes (P : String → Prop) (f : Formatter) : Prop extends WritesBody P f where
  header : ∀ title, EscapeFree title → P (f.header title)

/-- What a relation says of its second text holds of all that the second formatter writes. -/
theorem Agree.writes (h : f.Agree R g) (hR : ∀ s t, R s t → P t) : g.Writes P where
  runSummary s := hR _ _ (h.runSummary s)
  latencyTable b enabled := hR _ _ (h.latencyTable b enabled)
  throughputTable b enabled := hR _ _ (h.throughputTable b enabled)
  quickSummary b s := hR _ _ (h.quickSummary b s)
  error text ht := hR _ _ (h.error text ht)
  warning text ht := hR _ _ (h.warning text ht)
  success text ht := hR _ _ (h.success text ht)
  header title ht := hR _ _ (h.header title ht)

theorem unpainted_writes (o : Options) (scheme : Scheme) :
    (unpainted o scheme).Writes EscapeFree :=
  (coloured_agree .bare o scheme).writes fun _ _ => Shows.escapeFree

variable (ink : Ink) (o : Options) (scheme : Scheme)

/-- With colours off the brush leaves every text alone, whatever can be written. -/
theorem brush_eq_dryBrush (ho : o.enableColour = false) :
    brush ink o scheme = dryBrush o scheme := by
  simp [dryBrush, brush, ho]

/-- With colours off a formatter writes, titles aside, what it writes where no escape sequences
can be written. -/
theorem coloured_writesBody (ho : o.enableColour = false) (h : (unpainted o scheme).Writes P) :
    (coloured ink o scheme).WritesBody P := by
  have hbrush := brush_eq_dryBrush ink o scheme ho
  have hbody := h.toWritesBody
  have heq : coloured ink o scheme =
      { unpainted o scheme with header := (coloured ink o scheme).header } := by
    simp only [unpainted, coloured, hbrush, dryBrush]
  rw [heq]
  exact ⟨hbody.runSummary, hbody.latencyTable, hbody.throughputTable, hbody.quickSummary,
    hbody.error, hbody.warning, hbody.success⟩

/-- A title in a colour starts an escape sequence wherever one can be written. -/
theorem escapeFree_title_iff (ho : o.enableColour = false) {text : String}
    (ht : EscapeFree text) : EscapeFree (title ink o scheme text) ↔ ink = .bare := by
  have hpaint : (⟨false, some scheme.header⟩ : Paint) = .of scheme.header := rfl
  rw [title, ho, hpaint, EscapeFree, Paint.toList_apply_of ht]
  by_cases hink : ink = .bare
  · rw [if_pos hink]
    exact iff_of_true ht hink
  · rw [if_neg hink, Paint.opening]
    exact iff_of_false (by simp) hink

theorem escapeFree_framed_iff {line text : String} (hline : EscapeFree line) :
    EscapeFree (framed line text) ↔ EscapeFree text := by
  have hafter : '\x1b' ∉ "  \n".toList := by decide
  have hbefore : '\x1b' ∉ "\n  ".toList := by decide
  have hline : '\x1b' ∉ line.toList := hline
  simp only [EscapeFree, framed, String.toList_append, List.mem_append, hline, hafter, hbefore,
    false_or, or_false]

/-- With colours off, whatever can be written, no escape character is in any text but a title, and
there one is wherever escape sequences can be written. -/
theorem escapes_without_colour (ho : o.enableColour = false) :
    (coloured ink o scheme).WritesBody EscapeFree ∧
    ∀ text, EscapeFree text →
      (EscapeFree ((coloured ink o scheme).header text) ↔ ink = .bare) := by
  refine ⟨coloured_writesBody ink o scheme ho (unpainted_writes o scheme), fun text ht => ?_⟩
  have hrule : EscapeFree (repeated (width text + 4) '═') :=
    (tame_repeated _ (by decide)).escape_not_mem
  have hline : (brush ink o scheme).tone (.role .header) (repeated (width text + 4) '═') =
      repeated (width text + 4) '═' := by
    rw [brush_eq_dryBrush ink o scheme ho]
    rfl
  change EscapeFree (framed ((brush ink o scheme).tone _ _) (title ink o scheme text)) ↔ _
  rw [hline, escapeFree_framed_iff hrule]
  exact escapeFree_title_iff ink o scheme ho ht

theorem escapes_without_colour_loopback :
    ('\x1b' ∉ ((coloured .ansi { enableColour := false } {}).success "done").toList) ∧
    '\x1b' ∈ ((coloured .ansi { enableColour := false } {}).header "Loopback").toList := by
  obtain ⟨hbody, hheader⟩ := escapes_without_colour .ansi { enableColour := false } {} rfl
  refine ⟨hbody.success "done" (by decide), not_not.1 fun hfree => ?_⟩
  exact absurd ((hheader "Loopback" (by decide)).1 hfree) (by decide)

/-- A title has escape characters although colours are off. -/
theorem title_escapes_without_colour :
    ¬∀ (ink : Ink) (o : Options) (scheme : Scheme), o.enableColour = false →
      (coloured ink o scheme).Writes EscapeFree := by
  intro h
  have hheader := (h .ansi { enableColour := false } {} rfl).header "Loopback" (by decide)
  exact absurd hheader (by decide)

end Formatter

end Report

end LoopGauge
