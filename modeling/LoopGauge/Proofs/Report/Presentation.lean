import LoopGauge.Proofs.Report.Ruled
import LoopGauge.Settings.Advice

/-!
# Colour is presentation

What a coloured formatter writes with colours says what it writes without them, and so does
everything that is written about faults and settings. Both are compared with what is written where
no escape sequences can be written at all.

## Main definitions

* `SameText`: two texts are the same up to escape sequences and blanks at line ends.
* `Formatter.Agree R f g`: whatever two formatters are asked for, the texts are related by `R`.

## Main statements

* `Formatter.coloured_agree`: a coloured formatter puts escape sequences into the bare text.
* `Formatter.colour_is_presentation`: colours change nothing but the escape sequences.
-/

namespace LoopGauge

open Number Style Text

namespace Report

variable {s t p : String}

/-- The texts are the same up to escape sequences and blanks at line ends. -/
def SameText (s t : String) : Prop := AlikeLines (unstyled s) (unstyled t)

theorem SameText.of_shows (hs : Shows s p) (ht : Shows t p) : SameText s t :=
  hs.alikeLines.trans ht.alikeLines.symm

namespace Formatter

variable {f g k : Formatter} {R S : String → String → Prop}

/-- Whatever the formatters are asked for, their texts are related. Titles and messages, which
come from outside, are free of escape characters. -/
structure Agree (R : String → String → Prop) (f g : Formatter) : Prop where
  header : ∀ title, '\x1b' ∉ title.toList → R (f.header title) (g.header title)
  runSummary : ∀ s, R (f.runSummary s) (g.runSummary s)
  latencyTable : ∀ b enabled, R (f.latencyTable b enabled) (g.latencyTable b enabled)
  throughputTable : ∀ b enabled, R (f.throughputTable b enabled) (g.throughputTable b enabled)
  quickSummary : ∀ b s, R (f.quickSummary b s) (g.quickSummary b s)
  error : ∀ text, '\x1b' ∉ text.toList → R (f.error text) (g.error text)
  warning : ∀ text, '\x1b' ∉ text.toList → R (f.warning text) (g.warning text)
  success : ∀ text, '\x1b' ∉ text.toList → R (f.success text) (g.success text)

/-- Formatters that both agree with a third agree with each other. -/
theorem Agree.of_common (hf : f.Agree R k) (hg : g.Agree R k)
    (h : ∀ s t p, R s p → R t p → S s t) : f.Agree S g where
  header title ht := h _ _ _ (hf.header title ht) (hg.header title ht)
  runSummary s := h _ _ _ (hf.runSummary s) (hg.runSummary s)
  latencyTable b enabled := h _ _ _ (hf.latencyTable b enabled) (hg.latencyTable b enabled)
  throughputTable b enabled :=
    h _ _ _ (hf.throughputTable b enabled) (hg.throughputTable b enabled)
  quickSummary b s := h _ _ _ (hf.quickSummary b s) (hg.quickSummary b s)
  error text ht := h _ _ _ (hf.error text ht) (hg.error text ht)
  warning text ht := h _ _ _ (hf.warning text ht) (hg.warning text ht)
  success text ht := h _ _ _ (hf.success text ht) (hg.success text ht)

variable (ink : Ink) (o : Options) (scheme : Scheme)

theorem brush_faithful : (brush ink o scheme).Faithful := by
  have hpaint (paint : Paint) {s : String} (hs : '\x1b' ∉ s.toList) :
      Styles (if o.enableColour then paint.apply ink s else s) s := by
    split
    · exact paint.styles_apply ink hs
    · exact .of_not_mem hs
  exact ⟨fun t _ hs => hpaint (.of (t.colour scheme)) hs, fun hs => hpaint { bold := true } hs⟩

/-- The brush of the same options that puts in no escape sequences. -/
def dryBrush (o : Options) (scheme : Scheme) : Brush :=
  brush .bare { o with enableColour := false } scheme

/-- The formatter of the same options that writes no escape sequences. -/
def unpainted (o : Options) (scheme : Scheme) : Formatter :=
  coloured .bare { o with enableColour := false } scheme

theorem tame_enabledText (s : RunSummary) : Tame (enabledText s) := tame_listing s.enabled

theorem tame_spanText (s : Span) : Tame (spanText s) := tame_millis s.asMillis

theorem framed_styles {line line' text text' : String} (hline : Styles line line')
    (htext : Styles text text') : Styles (framed line text) (framed line' text') :=
  (((hline.append (.of_not_mem (by decide))).append htext).append
    (.of_not_mem (by decide))).append hline

theorem coloured_header_styles {title : String} (ht : '\x1b' ∉ title.toList) :
    Styles ((coloured ink o scheme).header title) ((unpainted o scheme).header title) := by
  have hrule : Tame (repeated (width title + 4) '═') := tame_repeated _ (by decide)
  exact framed_styles ((brush_faithful ink o scheme).tone _ hrule.escape_not_mem)
    (Paint.styles_apply _ ink ht)

theorem coloured_runSummary_styles (s : RunSummary) :
    Styles ((coloured ink o scheme).runSummary s) ((unpainted o scheme).runSummary s) := by
  have hbrush := brush_faithful ink o scheme
  have hrole (r : Role) {text : String} (h : Tame text) :
      Styles ((brush ink o scheme).tone (.role r) text) ((dryBrush o scheme).tone (.role r) text) :=
    hbrush.tone _ h.escape_not_mem
  have hlabel (text : String) (h : Tame text) : Styles text text := h.styles
  have htests : Styles
      (if s.enabled.isEmpty then (brush ink o scheme).tone (.role .warning) "none"
        else enabledText s)
      (if s.enabled.isEmpty then "none" else enabledText s) := by
    split
    · exact hrole .warning (by decide)
    · exact (tame_enabledText s).styles
  have hfailed : Styles
      (if 0 < s.failed then (brush ink o scheme).tone (.role .error) (decimal s.failed)
        else decimal s.failed)
      (if 0 < s.failed then decimal s.failed else decimal s.failed) := by
    split
    · exact hrole .error (tame_decimal s.failed)
    · exact (tame_decimal s.failed).styles
  have hsuccessful := hlabel "  Successful:     " (by decide)
    |>.append (hrole .success (tame_decimal s.successful.toNat))
    |>.append (hlabel " (" (by decide))
    |>.append (hrole (percentageRole s.successRate) (tame_percentage s.successRate))
    |>.append (hlabel ")" (by decide))
  exact Styles.join (by decide)
    (.cons (hbrush.bold (by decide))
    (.cons ((hlabel _ (by decide)).append htests)
    (.cons ((hlabel _ (by decide)).append (tame_spanText s.slice).styles)
    (.cons ((hlabel _ (by decide)).append (tame_spanText s.total).styles)
    (.cons hsuccessful
    (.cons ((hlabel _ (by decide)).append hfailed) .nil))))))

theorem coloured_quickSummary_styles (b : BenchResult) (s : RunSummary) :
    Styles ((coloured ink o scheme).quickSummary b s) ((unpainted o scheme).quickSummary b s) := by
  have htone (t : Tone) {text : String} (h : Tame text) :
      Styles ((brush ink o scheme).tone t text) ((dryBrush o scheme).tone t text) :=
    (brush_faithful ink o scheme).tone t h.escape_not_mem
  have hlabel (text : String) (h : Tame text) : Styles text text := h.styles
  have hrtt (us : Binary64) := htone (.level (LatencyLevel.ofMicros us)) (tame_micros us)
  have hrate (x : Binary64) := htone (.role .info) (tame_fixed x 1)
  exact htone (.role .success) (tame_decimal s.successful.toNat)
    |>.append (hlabel "/" (by decide))
    |>.append (tame_decimal s.enabled.length).styles
    |>.append (hlabel " ok" (by decide))
    |>.append (hlabel " | TCP rtt " (by decide))
    |>.append (hrtt b.tcpLatency.medianUs)
    |>.append (hlabel " | UDP rtt " (by decide))
    |>.append (hrtt b.udpLatency.medianUs)
    |>.append (hlabel " | TCP " (by decide))
    |>.append (hrate b.tcpThroughput.mibPerSec)
    |>.append (hlabel " MiB/s" (by decide))
    |>.append (hlabel " | UDP " (by decide))
    |>.append (hrate b.udpThroughput.mibPerSec)
    |>.append (hlabel " MiB/s | " (by decide))
    |>.append (tame_spanText s.total).styles

theorem coloured_latencyTable_shows (b : BenchResult) (enabled : List SubTest) :
    Shows ((coloured ink o scheme).latencyTable b enabled)
      ((unpainted o scheme).latencyTable b enabled) :=
  drawRuled_shows (brush_faithful ink o scheme) (tame_latencyColumns o.verbose)
    (List.forall_mem_map.2 fun t _ => tame_latencyRow o.verbose b enabled t)

theorem coloured_throughputTable_shows (b : BenchResult) (enabled : List SubTest) :
    Shows ((coloured ink o scheme).throughputTable b enabled)
      ((unpainted o scheme).throughputTable b enabled) :=
  drawRuled_shows (brush_faithful ink o scheme) tame_throughputColumns
    (List.forall_mem_map.2 fun t _ => tame_throughputRow b enabled t)

/-- A coloured formatter only puts escape sequences into what is written without any, and keeps
some blanks at the ends of rows. -/
theorem coloured_agree : (coloured ink o scheme).Agree Shows (unpainted o scheme) := by
  have hmessage {mark text : String} (hmark : '\x1b' ∉ mark.toList) (r : Role)
      (ht : '\x1b' ∉ text.toList) :
      Styles (mark ++ (brush ink o scheme).tone (.role r) text) (mark ++ text) :=
    (Styles.of_not_mem hmark).append ((brush_faithful ink o scheme).tone _ ht)
  exact {
    header := fun title ht => .of_styles (coloured_header_styles ink o scheme ht)
    runSummary := fun s => .of_styles (coloured_runSummary_styles ink o scheme s)
    latencyTable := coloured_latencyTable_shows ink o scheme
    throughputTable := coloured_throughputTable_shows ink o scheme
    quickSummary := fun b s => .of_styles (coloured_quickSummary_styles ink o scheme b s)
    error := fun text ht => .of_styles (hmessage (by simp) .error ht)
    warning := fun text ht => .of_styles (hmessage (by simp) .warning ht)
    success := fun text ht => .of_styles (hmessage (by simp) .success ht) }

end Formatter

end Report

theorem Fault.unstyled_console (ink : Ink) {f : Fault} (h : '\x1b' ∉ f.message.toList) :
    unstyled (f.console ink true) = f.console ink false := by
  have hheading : '\x1b' ∉ f.kind.heading.toList := by cases f.kind <;> decide
  have htag : '\x1b' ∉ f.kind.category.toList := by cases f.kind <;> decide
  have hdisplay : '\x1b' ∉ f.display.toList := by
    rw [Fault.display, String.toList_append, List.mem_append, not_or]
    exact ⟨hheading, h⟩
  have hstyles := Styles.of_not_mem (s := "[") (by decide)
    |>.append ((Paint.boldOf f.kind.colour).styles_apply ink htag)
    |>.append (Styles.of_not_mem (s := "] ") (by decide))
    |>.append ((Paint.of f.kind.colour).styles_apply ink hdisplay)
  exact hstyles.unstyled_eq

theorem AdviceLevel.unstyled_shown (ink : Ink) (level : AdviceLevel) {message : String}
    (h : '\x1b' ∉ message.toList) :
    unstyled (level.shown ink true message) = level.shown ink false message := by
  have htag : '\x1b' ∉ ("[" ++ level.name ++ "]").toList := by cases level <;> decide
  have hstyles := (Paint.boldOf level.colour).styles_apply ink htag
    |>.append (Styles.of_not_mem (s := " ") (by decide))
    |>.append (Styles.of_not_mem h)
  exact hstyles.unstyled_eq

namespace Report.Formatter

/-- Colours are presentation: with and without them a formatter says the same, and so does what is
written about faults and advice. -/
theorem colour_is_presentation (ink : Ink) :
    (∀ (o : Options) (scheme : Scheme),
      (coloured ink { o with enableColour := true } scheme).Agree SameText
        (coloured ink { o with enableColour := false } scheme)) ∧
    (∀ f : Fault, '\x1b' ∉ f.message.toList →
      unstyled (f.console ink true) = f.console ink false) ∧
    ∀ (level : AdviceLevel) (message : String), '\x1b' ∉ message.toList →
      unstyled (level.shown ink true message) = level.shown ink false message := by
  refine ⟨fun o scheme => ?_, fun f => Fault.unstyled_console ink,
    fun level message => AdviceLevel.unstyled_shown ink level⟩
  -- A title keeps its colour even if colours are off, so neither side is the bare text itself.
  have hon := coloured_agree ink { o with enableColour := true } scheme
  have hoff := coloured_agree ink { o with enableColour := false } scheme
  exact hon.of_common hoff fun s t p => .of_shows

theorem colour_is_presentation_timeout :
    SameText ((coloured .ansi {} {}).header "Loopback")
      ((coloured .ansi { enableColour := false } {}).header "Loopback") ∧
    unstyled (Fault.console .ansi true ⟨.timeout, "no answer"⟩) =
      "[TIMEOUT] Timeout error: no answer" ∧
    unstyled (AdviceLevel.warning.shown .ansi true "short slices") = "[WARNING] short slices" := by
  obtain ⟨hformatter, hfault, hadvice⟩ := colour_is_presentation .ansi
  refine ⟨(hformatter {} {}).header "Loopback" (by decide), ?_, ?_⟩
  · rw [hfault _ (by decide)]
    decide
  · rw [hadvice _ _ (by decide)]
    decide

end Report.Formatter

end LoopGauge
