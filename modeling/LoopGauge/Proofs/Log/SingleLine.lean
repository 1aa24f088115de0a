import LoopGauge.Log.Logger
import LoopGauge.Proofs.Json.Printable
import LoopGauge.Proofs.Log.Draft
import LoopGauge.Proofs.Number.Digits
import LoopGauge.Proofs.Text.Lines
import Mathlib.Algebra.BigOperators.Group.List.Basic

/-!
# Records on lines

A compact record is the time of day, a letter for its level, the name of its logger and its message.
The name and the message are written as they are, so the line breaks of the record are theirs:
nothing else that a logger is told adds one. Where neither has any, a reader of the stream finds
each record on a line of its own; a message with a line feed takes several lines, and each of them
may look like a record.

## Main definitions

* `SingleLine`: a text without line breaks.
* `Telling`: a logger is told of something, in a context and at a time.
* `leftOn`: what stands on a stream afterwards.

## Main statements

* `count_compactLine`: the line breaks of a compact record.
* `lines_of_compact`: the lines that compact records take.
-/

namespace LoopGauge.Log

open Number Text

/-- The characters at which a line may end. -/
def lineBreaks : List Char := ['\n', '\x0b', '\x0c', '\r', '\u0085', '\u2028', '\u2029']

/-- No line ends in the text. -/
def SingleLine (s : String) : Prop := ∀ c ∈ s.toList, c ∉ lineBreaks

instance (s : String) : Decidable (SingleLine s) :=
  List.decidableBAll (fun c => c ∉ lineBreaks) s.toList

/-- A logger is told of something: in which context, when, how serious it is, and what it is. -/
structure Telling where
  logger : Logger
  context : Context := {}
  moment : Time.Moment
  level : Level
  message : String
  details : List Detail := []

namespace Telling

def entry (r : Telling) : Entry :=
  r.logger.entry r.context r.moment (drafted r.level r.message r.details)

/-- The record. -/
def line (r : Telling) : String := r.logger.line r.entry

/-- The stream and the record, if it is written. -/
def written? (r : Telling) : Option (Stream × String) :=
  r.logger.write r.context r.moment (drafted r.level r.message r.details)

/-- Whether the record is written to a stream. -/
def goesTo (r : Telling) (s : Stream) : Bool :=
  r.logger.admits r.level && r.logger.stream r.level == s

/-- The lines that a compact record takes. -/
def height (r : Telling) : Nat :=
  r.logger.name.toList.count '\n' + r.message.toList.count '\n' + 1

end Telling

/-- What stands on a stream when loggers have been told: the records that were written to it, a line
feed after each. -/
def leftOn (s : Stream) (rs : List Telling) : List Char :=
  (rs.filterMap Telling.written?).flatMap fun w => if w.1 = s then w.2.toList ++ ['\n'] else []

variable {r : Telling} {rs : List Telling} {s : Stream} {c : Char}

/-- A time of day is digits and colons. -/
theorem isDigit_or_of_mem_clock {m : Time.Moment} (hc : c ∈ m.clock.toList) :
    c.isDigit ∨ c = ':' := by
  rw [Time.Moment.clock, String.toList_ofList, Time.Moment.clockText] at hc
  simp only [List.mem_append, List.mem_cons] at hc
  obtain (hc | rfl | hc) | rfl | hc := hc
  · exact .inl (isDigit_of_mem_paddedDigits hc)
  · exact .inr rfl
  · exact .inl (isDigit_of_mem_paddedDigits hc)
  · exact .inr rfl
  · exact .inl (isDigit_of_mem_paddedDigits hc)

/-- No line break is in what a compact record adds to its name and message. -/
theorem not_mem_of_lineBreak (hc : c ∈ lineBreaks) (m : Time.Moment) (l : Level) :
    c ∉ m.clock.toList ∧ c ≠ ' ' ∧ c ≠ ':' ∧ c ≠ l.initial := by
  have hall : lineBreaks.all fun c => ¬c.isDigit ∧ c ≠ ' ' ∧ c ≠ ':' ∧ c ≠ l.initial := by
    cases l <;> decide
  obtain ⟨hdigit, hspace, hcolon, hinitial⟩ := of_decide_eq_true (List.all_eq_true.1 hall c hc)
  exact ⟨fun hmem => (isDigit_or_of_mem_clock hmem).elim hdigit hcolon, hspace, hcolon, hinitial⟩

/-- The line breaks of a compact record are those of its logger's name and of its message. -/
theorem count_compactLine (hc : c ∈ lineBreaks) (e : Entry) :
    (Logger.compactLine e).toList.count c = e.logger.toList.count c + e.message.toList.count c := by
  obtain ⟨hclock, hspace, hcolon, hinitial⟩ := not_mem_of_lineBreak hc e.moment e.level
  have hgap : " ".toList.count c = 0 := List.count_eq_zero.2 (by simpa using hspace)
  have hmark : ": ".toList.count c = 0 := List.count_eq_zero.2 (by simp [hspace, hcolon])
  have hletter : (String.singleton e.level.initial).toList.count c = 0 :=
    List.count_eq_zero.2 (by simpa using hinitial)
  rw [Logger.compactLine]
  simp only [String.toList_append, List.count_append, List.count_eq_zero.2 hclock, hgap, hmark,
    hletter]
  omega

namespace Telling

theorem line_of_compact (h : r.logger.format = .compact) :
    r.line = Logger.compactLine r.entry := by
  rw [line, Logger.line, h]

theorem level_drafted (r : Telling) : (drafted r.level r.message r.details).level = r.level := by
  rw [drafted_eq]

theorem count_line (h : r.logger.format = .compact) (hc : c ∈ lineBreaks) :
    r.line.toList.count c = r.logger.name.toList.count c + r.message.toList.count c := by
  have hmessage : r.entry.message = r.message := by
    rw [entry, Logger.entry, drafted_eq]
  have hname : r.entry.logger = r.logger.name := rfl
  rw [line_of_compact h, count_compactLine hc, hmessage, hname]

theorem mem_line_iff (h : r.logger.format = .compact) (hc : c ∈ lineBreaks) :
    c ∈ r.line.toList ↔ c ∈ r.logger.name.toList ∨ c ∈ r.message.toList := by
  rw [← List.count_pos_iff, count_line h hc, ← List.count_pos_iff, ← List.count_pos_iff]
  omega

theorem written?_eq (r : Telling) :
    r.written? =
      if r.logger.admits r.level then some (r.logger.stream r.level, r.line) else none := by
  rw [written?, Logger.write, level_drafted]
  rfl

end Telling

/-- The records on a stream, one after the other. -/
theorem leftOn_eq (s : Stream) (rs : List Telling) :
    leftOn s rs = (rs.filter (·.goesTo s)).flatMap fun r => r.line.toList ++ ['\n'] := by
  induction rs with
  | nil => rfl
  | cons r rs ih =>
    rw [leftOn] at ih ⊢
    rw [List.filterMap_cons, List.filter_cons, Telling.goesTo, r.written?_eq]
    by_cases hadmits : r.logger.admits r.level
    · by_cases hstream : r.logger.stream r.level = s
      · simp [hadmits, hstream, ih]
      · simp [hadmits, hstream, ih]
    · simp [hadmits, ih]

/-- The lines of records are those of the first and those of the others. -/
theorem lines_flatMap (rs : List Telling) :
    lines (rs.flatMap fun r => r.line.toList ++ ['\n']) =
      rs.flatMap fun r => (pieces '\n' r.line.toList).map (dropLastIf (· == '\r')) := by
  induction rs with
  | nil => rfl
  | cons r rs ih =>
    rw [List.flatMap_cons, List.flatMap_cons, ← ih, List.append_assoc, List.singleton_append]
    exact @linesBy_append_cons Char (· == '\n') '\n' _ rfl _ _

theorem length_pieces_line (h : r.logger.format = .compact) :
    (pieces '\n' r.line.toList).length = r.height := by
  rw [pieces, length_piecesBy, ← List.count_eq_countP, Telling.count_line h (by decide),
    Telling.height]

/-- A text without line breaks is read as it was written. -/
theorem pieces_of_no_breaks {cs : List Char} (h : ∀ c ∈ cs, c ∉ lineBreaks) :
    (pieces '\n' cs).map (dropLastIf (· == '\r')) = [cs] := by
  have hfeed : ∀ c ∈ cs, ¬(c == '\n') := by
    rintro c hc heq
    exact h c hc (eq_of_beq heq ▸ by decide)
  have hreturn : dropLastIf (· == '\r') cs = cs := by
    obtain heq | ⟨c, hc, heq⟩ := dropLastIf_eq (· == '\r') cs
    · exact heq
    · have hmem : c ∈ cs := heq ▸ List.mem_append_right _ (List.mem_singleton_self c)
      exact absurd (eq_of_beq hc ▸ by decide) (h c hmem)
  rw [pieces, piecesBy_of_forall_not hfeed, List.map_singleton, hreturn]

/-- A record of a run that keeps standard output for its report goes to standard error. -/
theorem stream_of_json {c : Settings} (h : c.json) (name : String) (l : Level) :
    (Logger.ofSettings name c).stream l = .error := by
  simp [Logger.stream, Logger.ofSettings, h]

/-- Such a record is compact or has no line feed. -/
theorem compact_or_no_feed {c : Settings} {name : String} (h : c.json)
    (hr : r.logger = .ofSettings name c) :
    r.logger.format = .compact ∨ '\n' ∉ r.line.toList := by
  cases hdebug : c.debug with
  | false => simp [hr, Logger.ofSettings, h, hdebug]
  | true =>
    refine .inr fun hmem => ?_
    have hline : r.line = Document.entry.encode r.entry := by
      simp [Telling.line, Logger.line, hr, Logger.ofSettings, hdebug]
    rw [hline, Json.Codec.encode, Json.Value.compactText, String.toList_ofList] at hmem
    exact absurd (Json.printable_compact _ '\n' hmem) (by decide)

/-- The line breaks of compact records are those of their names and messages, and these are all that
make a record take more than one line. -/
theorem lines_of_compact (rs : List Telling) (h : ∀ r ∈ rs, r.logger.format = .compact) :
    (∀ r ∈ rs, ∀ c ∈ lineBreaks,
      c ∈ r.line.toList ↔ c ∈ r.logger.name.toList ∨ c ∈ r.message.toList) ∧
    (∀ s, (lines (leftOn s rs)).length = ((rs.filter (·.goesTo s)).map Telling.height).sum) ∧
    ((∀ r ∈ rs, SingleLine r.logger.name ∧ SingleLine r.message) →
      (∀ r ∈ rs, SingleLine r.line) ∧
      ∀ s, lines (leftOn s rs) = (rs.filter (·.goesTo s)).map (·.line.toList)) ∧
    ∀ (name : String) (c : Settings) (r : Telling), c.json → r.logger = .ofSettings name c →
      ¬r.goesTo .output ∧ (r.logger.format = .compact ∨ '\n' ∉ r.line.toList) := by
  have hlines : ∀ s, lines (leftOn s rs) = (rs.filter (·.goesTo s)).flatMap fun r =>
      (pieces '\n' r.line.toList).map (dropLastIf (· == '\r')) := fun s => by
    rw [leftOn_eq, lines_flatMap]
  refine ⟨fun r hr c hc => Telling.mem_line_iff (h r hr) hc, fun s => ?_, fun hsingle => ?_, ?_⟩
  · rw [hlines, List.length_flatMap]
    refine congrArg List.sum (List.map_congr_left fun r hr => ?_)
    rw [List.length_map, length_pieces_line (h r (List.mem_of_mem_filter hr))]
  · have hline : ∀ r ∈ rs, SingleLine r.line := by
      intro r hr c hc hbreak
      obtain hname | hmessage := (Telling.mem_line_iff (h r hr) hbreak).1 hc
      · exact (hsingle r hr).1 c hname hbreak
      · exact (hsingle r hr).2 c hmessage hbreak
    refine ⟨hline, fun s => ?_⟩
    rw [hlines, ← List.flatMap_singleton' (List.map _ _), List.flatMap_map]
    refine List.flatMap_congr fun r hr => ?_
    exact pieces_of_no_breaks (hline r (List.mem_of_mem_filter hr))
  · intro name c r hjson hr
    refine ⟨?_, compact_or_no_feed hjson hr⟩
    rw [Telling.goesTo, hr, stream_of_json hjson]
    simp

theorem lines_of_compact_two :
    let l := Logger.ofSettings "NET" { json := true, enableColour := false }
    let first : Telling := { logger := l, moment := ⟨0, 0⟩, level := .warn, message := "slow" }
    let second : Telling := { first with moment := ⟨61, 0⟩, level := .error, message := "lost" }
    SingleLine first.line ∧ ¬first.goesTo .output ∧
      lines (leftOn .error [first, second]) =
        ["00:00:00 W NET: slow".toList, "00:01:01 E NET: lost".toList] := by
  intro l first second
  have hcompact : ∀ r ∈ [first, second], r.logger.format = .compact := by decide
  have hsingle : ∀ r ∈ [first, second], SingleLine r.logger.name ∧ SingleLine r.message := by
    decide
  obtain ⟨-, -, hlines, hjson⟩ := lines_of_compact [first, second] hcompact
  obtain ⟨hfirst, hleft⟩ := hlines hsingle
  refine ⟨hfirst first List.mem_cons_self, (hjson "NET" _ first rfl rfl).1, ?_⟩
  exact (hleft .error).trans (by decide +kernel)

/-- A message with a line feed leaves what two records leave. -/
theorem compact_record_forged :
    let l : Logger := { name := "NET", format := .compact }
    let first : Telling := { logger := l, moment := ⟨0, 0⟩, level := .error, message := "lost" }
    let second : Telling := { first with moment := ⟨61, 0⟩, message := "found" }
    let forged : Telling := { first with message := "lost\n00:01:01 E NET: found" }
    forged.logger.format = .compact ∧ '\n' ∈ forged.line.toList ∧
      lines (leftOn .error [forged]) =
        ["00:00:00 E NET: lost".toList, "00:01:01 E NET: found".toList] ∧
      leftOn .error [forged] = leftOn .error [first, second] := by
  decide +kernel

end LoopGauge.Log
