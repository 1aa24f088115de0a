import LoopGauge.Log.Logger
import LoopGauge.Proofs.Json.Plain
import LoopGauge.Proofs.Json.Printable
import LoopGauge.Proofs.Time.Stamp

/-!
# Reading log records

A record in the form of a document is one line, whatever texts it carries, and a reader gets back
what was logged: everything but the instant of a leap second, and fields in the order of their keys.

## Main definitions

* `Loggable e`: the fields of a record are a map of plain values.

## Main statements

* `line_reads_back`: the line of a record is read back.
-/

namespace LoopGauge.Document

open Json

/-- The fields of a record are a map, in any order, of values without real numbers that are not
nested too deep; its place has a 32-bit line, and its year is one that a timestamp can have. -/
structure Loggable (e : Log.Entry) : Prop where
  keys : (e.fields.map Prod.fst).Nodup
  plain : ∀ f ∈ e.fields, Plain 100 f.2
  line : ∀ place, e.location = some place → place.line ≤ 4294967295
  firstYear : Time.Date.firstYear ≤ e.moment.date.year
  lastYear : e.moment.date.year ≤ Time.Date.lastYear

theorem level_takes (l : Log.Level) : Takes level.read 0 (level.write l) l :=
  takes_choice (by cases l <;> rfl)

theorem optionalText_takes (o : Option String) :
    Takes (Codec.optional .text).read 0 ((Codec.optional .text).write o) o := by
  cases o with
  | none => exact takes_optional_none
  | some s => exact (takes_text s).optional nofun

theorem fits_optionalText (o : Option String) : ((Codec.optional .text).write o).Fits := by
  cases o with
  | none => exact .null
  | some s => exact .text s

section Location

variable {place : Log.Location}

theorem location_takes (h : place.line ≤ 4294967295) :
    Takes location.read 1 (location.write place) place :=
  takes_record (by decide)
    (.cons ((takes_text place.file).map _) (.cons ((takes_natUpTo h).map _)
      (.cons ((optionalText_takes place.module).map _) .nil))) rfl

theorem fits_location (h : place.line ≤ 4294967295) : (location.write place).Fits := by
  refine fits_entriesOf ?_
  simp only [locationFields, List.forall_mem_cons]
  exact ⟨.text _, fits_ofNat (h.trans (by decide)), fits_optionalText _, nofun⟩

theorem optionalLocation_takes {o : Option Log.Location}
    (h : ∀ place, o = some place → place.line ≤ 4294967295) :
    Takes (Codec.optional location).read 1 ((Codec.optional location).write o) o := by
  cases o with
  | none => exact takes_optional_none.mono (Nat.zero_le 1)
  | some place => exact (location_takes (h place rfl)).optional nofun

theorem fits_optionalLocation {o : Option Log.Location}
    (h : ∀ place, o = some place → place.line ≤ 4294967295) :
    ((Codec.optional location).write o).Fits := by
  cases o with
  | none => exact .null
  | some place => exact fits_location (h place rfl)

end Location

variable {e : Log.Entry}

theorem fits_entry (h : Loggable e) : (entry.write e).Fits := by
  refine fits_entriesOf ?_
  simp only [entryFields, List.forall_mem_cons]
  exact ⟨.text _, .text _, .text _, .text _, fits_optionalText _,
    .object fun f hf => (h.plain f hf).fits, fits_optionalLocation h.line, nofun⟩

/-- A record is read back, with its fields sorted, if its timestamp is read. -/
theorem entry_takes (h : Loggable e) {m : Time.Moment}
    (hm : Time.Stamp.read? e.moment.full = some m) :
    Takes entry.read 102 (entry.write e) { e with moment := m, fields := sortKeys e.fields } := by
  have hlevels {α : Type} {d : Decoder α} {v : Value} {a : α} (ht : Takes d 0 v a) :
      Takes d 101 v a := ht.mono (Nat.zero_le 101)
  -- Only the fields go deep; they are an object of values that may be nested a hundred times.
  have htimestamp := hlevels ((takes_text e.moment.full).filterMap hm)
  have hlevel := hlevels (level_takes e.level)
  have hmessage := hlevels (takes_text e.message)
  have hlogger := hlevels (takes_text e.logger)
  have hcorrelation := hlevels (optionalText_takes e.correlation)
  have hfields := takes_anyObject h.plain
  have hlocation := (optionalLocation_takes h.line).mono (show 1 ≤ 101 by decide)
  exact takes_record (by decide) (.cons (htimestamp.map _) (.cons (hlevel.map _)
    (.cons (hmessage.map _) (.cons (hlogger.map _) (.cons (hcorrelation.map _)
      (.cons (hfields.map _) (.cons (hlocation.map _) .nil))))))) rfl

/-- The line of a record in the form of a document has no control character, and reading it gives
back the record, whose fields come sorted but have the same values under the same keys. -/
theorem line_reads_back (l : Log.Logger) (hformat : l.format = .json) (e : Log.Entry)
    (h : Loggable e) :
    (∀ c ∈ (l.line e).toList, 0x20 ≤ c.toNat) ∧
      ∃ m, (e.moment.nanos < 1000000000 → m = e.moment) ∧
        entry.decode (l.line e) = .ok { e with moment := m, fields := sortKeys e.fields } ∧
        ∀ key, find? key (sortKeys e.fields) = find? key e.fields := by
  have hline : l.line e = String.ofList (compact (entry.write e)) := by
    rw [Log.Logger.line, hformat]
    rfl
  obtain ⟨m, hm, hsame⟩ := Time.Stamp.exists_read?_full e.moment h.firstYear h.lastYear
  rw [hline, String.toList_ofList]
  exact ⟨printable_compact _, m, hsame,
    (entry_takes h hm).decode (by decide) (denotes_compact _) (fits_entry h),
    fun key => find?_sortKeys h.keys⟩

theorem line_reads_back_nested :
    let e : Log.Entry := {
      moment := ⟨1700000000, 5000000⟩, level := .warn, message := "first\nsecond", logger := "NET",
      fields := [("path", .text "C:\\tmp\t\"x\""),
        ("causes", .array [.object [("code", .whole (-7)), ("fatal", .flag false)], .null])],
      location := some { file := "net.rs", line := 12 } }
    (∀ c ∈ (Log.Logger.line { name := "NET", format := .json } e).toList, 0x20 ≤ c.toNat) ∧
      entry.decode (Log.Logger.line { name := "NET", format := .json } e) =
        .ok { e with fields := sortKeys e.fields } := by
  intro e
  have hcauses : Plain 100 (.array [.object [("code", .whole (-7)), ("fatal", .flag false)],
      .null]) := by
    refine .array ?_
    simp only [List.forall_mem_cons]
    refine ⟨.object (by decide) ?_, .null, nofun⟩
    simp only [List.forall_mem_cons]
    exact ⟨.whole (by decide) (by decide), .flag _, nofun⟩
  have he : Loggable e := by
    refine ⟨by decide, ?_, ?_, by decide, by decide⟩
    · simp only [e, List.forall_mem_cons]
      exact ⟨.text _, hcauses, nofun⟩
    · rintro place ⟨⟩
      decide
  obtain ⟨hprintable, m, hm, hdecode, -⟩ :=
    line_reads_back { name := "NET", format := .json } rfl e he
  obtain rfl := hm (by decide)
  exact ⟨hprintable, hdecode⟩

end LoopGauge.Document
