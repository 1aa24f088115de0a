import LoopGauge.Proofs.Log.Journal
import LoopGauge.Proofs.Run.Acts

/-!
# Records of a run among other calls

A run shares its context with others, who make calls at the same time. Whatever they do, the context
knows the operation that was started last, so the records of a run carry its operation unless
somebody else has started another one since.

## Main definitions

* `Journal.answers`: the run makes a call, and goes on when the call is over.
* `Plan.Correlated`: context and records agree with what was done.

## Main statements

* `Plan.records_correlated`: they do at every moment of a run among others.
-/

namespace LoopGauge

open Log Dialogue

namespace Log.Journal

/-- A question of the run is answered by a call, once its last call is over. -/
def answers : Answers Journal Engine.Request.Answer := fun j q answer j' =>
  j.due = [] ∧ j' = { j with due := q.acts answer }

/-- The acts that the run has done. -/
def ofRun (past : List Effect) : List Act :=
  past.filterMap fun e => if e.byRun then some e.act else none

/-- The acts that the run has done or has still to do before it goes on. -/
def course (j : Journal) : List Act := ofRun j.past ++ j.due

variable {past after : List Effect} {e : Effect} {a : Act} {j j' : Journal}

theorem ofRun_concat : ofRun (past ++ [e]) = ofRun past ++ if e.byRun then [e.act] else [] := by
  rw [ofRun, List.filterMap_append]
  cases h : e.byRun <;> simp [ofRun, h]

theorem ofRun_append_cons (h : e.byRun) :
    ofRun (past ++ e :: after) = ofRun past ++ e.act :: ofRun after := by
  rw [ofRun, List.filterMap_append]
  simp [ofRun, h]

theorem mem_ofRun : a ∈ ofRun past ↔ ∃ e ∈ past, e.byRun ∧ e.act = a := by
  rw [ofRun, List.mem_filterMap]
  refine exists_congr fun e => and_congr_right fun _ => ?_
  cases e.byRun <;> simp

theorem course_of_due (h : j.due = []) : j.course = ofRun j.past := by
  rw [course, h, List.append_nil]

/-- The run does what it had still to do, and others do not change its course. -/
theorem Step.course_eq (h : Step j j') : j'.course = j.course := by
  cases h with
  | copy | adjust | call => rfl
  | act underWay context =>
    change ofRun (j.past ++ [_]) ++ j.due = _
    rw [ofRun_concat, if_neg Bool.false_ne_true, List.append_nil]
    rfl
  | own due context =>
    change ofRun (_ ++ [_]) ++ _ = _
    rw [ofRun_concat]
    simp [course, due]

end Log.Journal

namespace Plan

open Engine Journal

/-- At some moment of a run among others, context and records agree with what was done. -/
structure Correlated (p : Plan) (j : Journal) : Prop where
  /-- All loggers have one context. It knows the operation that was started last, unless the end of
  that one has come since. -/
  current : ∃ c, (∀ i < j.loggers.members.length, j.loggers.context? i = some c) ∧
    ∀ x, c.operation = some x ↔ UnderWay (acts j.past) x
  /-- Every act so far has found such a context. -/
  earlier : ∀ before e after, j.past = before ++ e :: after →
    ∀ x, e.found.operation = some x ↔ UnderWay (acts before) x
  /-- The end of an operation that is older, has ended before or is not known changes nothing. -/
  unmoved : (starts (acts j.past)).Nodup → ∀ x, Over (acts j.past) x →
    ∀ i, (j.loggers.revise i fun c => c.perform (.finish x)) = j.loggers
  /-- Before its operation the run records only how it shares its budget. -/
  announced : ∀ before e after d, j.past = before ++ e :: after → e.byRun → e.act = .record d →
    (∀ f ∈ before, f.byRun → ∀ x, f.act ≠ .start x) →
    ∃ slice, p.slice? = some slice ∧ d = (Event.slicePlan p.budget p.enabled slice).draft
  /-- All other records of the run come after the start of its operation, and not after the end that
  the run brings it. They carry it unless somebody else has started one since, or has ended it. -/
  carried : ∀ before s between e after id d, j.past = before ++ s :: between ++ e :: after →
    s.byRun → s.act = .start id → e.byRun → e.act = .record d →
    (∀ f ∈ between, ¬f.byRun → (∀ x, f.act ≠ .start x) ∧ f.act ≠ .finish id) →
    ∀ (l : Logger) moment, (l.entry e.found moment d).correlation = some id

variable {p : Plan} {l : Logger} {c : Context} {left : Run (BenchResult × RunSummary)} {j : Journal}

/-- A run among others keeps its course, and the journal is sound. -/
theorem sound_of_reaches (hc : c.operation = none)
    (h : p.run.Reaches answers Step (starting l c) left j) :
    left.Conforms Course.note (Course.May p) (fun _ _ => True) j.course ∧ p.Course j.course ∧
      j.Sound := by
  induction h with
  | start => exact ⟨p.conforms_run, .begun, sound_starting l hc⟩
  | turn before turn ih =>
    obtain ⟨hconforms, hcourse, hsound⟩ := ih
    obtain ⟨q, answer, ⟨hdue, rfl⟩, hmay, hnext⟩ := hconforms.turn turn
    rw [course_of_due hdue] at hmay hnext
    exact ⟨hnext, hmay answer, hsound.shared, hsound.found⟩
  | drift before step ih =>
    obtain ⟨hconforms, hcourse, hsound⟩ := ih
    rw [step.course_eq]
    exact ⟨hconforms, hcourse, hsound.step step⟩

theorem correlation_entry {id : String} {d : Draft} {found : Context} (l : Logger)
    (moment : Time.Moment) (hd : Belongs id (.record d)) (hfound : found.operation = some id) :
    (l.entry found moment d).correlation = some id := by
  obtain ⟨d, heq, hnone | hsome⟩ := hd
  · obtain rfl := Act.record.inj heq
    rw [Logger.entry, hnone, hfound]
    rfl
  · obtain rfl := Act.record.inj heq
    rw [Logger.entry, hsome]
    rfl

/-- **Records name the operation started last.** A run goes on among others, who share its context
and make any calls of it at the same time. At every moment, however their acts are interleaved, the
context knows the operation started last until that one has ended, and the records of the run carry
its operation. -/
theorem records_correlated (l : Logger) (c : Context) (hc : c.operation = none) (p : Plan)
    (h : p.run.Reaches answers Step (starting l c) left j) : p.Correlated j := by
  obtain ⟨-, hcourse, hsound⟩ := sound_of_reaches hc h
  constructor
  case current =>
    obtain ⟨c, hshare, hagrees⟩ := hsound.shared
    exact ⟨c, fun i hi => hshare.context?_eq hi, hagrees⟩
  case earlier => exact hsound.found
  case unmoved => exact fun hdistinct x hover => hsound.finish_eq hover hdistinct
  case announced =>
    intro before e after d hpast he hact hbefore
    rw [course, hpast, ofRun_append_cons he, hact, List.append_assoc, List.cons_append] at hcourse
    refine hcourse.announces fun x hx => ?_
    obtain ⟨f, hf, hrun, hstart⟩ := mem_ofRun.1 hx
    exact hbefore f hf hrun x hstart
  case carried =>
    intro before s between e after id d hpast hs hstart he hrecord hothers moment l
    have hrun : j.course =
        ofRun before ++ .start id :: ofRun between ++ .record d :: (ofRun after ++ j.due) := by
      rw [course, hpast, ofRun_append_cons he, ofRun_append_cons hs, hstart, hrecord]
      simp
    rw [hrun] at hcourse
    obtain ⟨hbetween, hd⟩ := hcourse.belongs
    have hagrees := hsound.found _ e after hpast
    rw [acts, List.map_append, List.map_cons, hstart] at hagrees
    refine correlation_entry _ _ hd (hagrees.operation_eq (fun y hmem => ?_) fun hmem => ?_)
    · obtain ⟨f, hf, hact⟩ := List.mem_map.1 hmem
      by_cases hrun : f.byRun
      · exact not_belongs_start (hbetween _ (mem_ofRun.2 ⟨f, hf, hrun, hact⟩))
      · exact (hothers f hf hrun).1 y hact
    · obtain ⟨f, hf, hact⟩ := List.mem_map.1 hmem
      by_cases hrun : f.byRun
      · exact not_belongs_finish (hbetween _ (mem_ofRun.2 ⟨f, hf, hrun, hact⟩))
      · exact (hothers f hf hrun).2 hact

section Overlap

/-- A copy of the logger of a run starts another operation, which ends while the run goes on. -/
def ComesTo (left : Run (BenchResult × RunSummary)) (j : Journal) : Prop :=
  standard.run.Reaches answers Step (starting (Logger.quiet recorder) {}) left j

theorem ComesTo.ask {q : Request} {next : q.Answer → Run (BenchResult × RunSummary)}
    (h : ComesTo (.ask q next) j) (hdue : j.due = []) (answer : q.Answer) :
    ComesTo (next answer) { j with due := q.acts answer } :=
  Reaches.ask h ⟨hdue, rfl⟩

theorem ComesTo.step (h : ComesTo left j) {j' : Journal} (hstep : Step j j') : ComesTo left j' :=
  Reaches.drift h hstep

/-- The other operation starts just before the one of the run, and ends before the first probe. -/
theorem comesTo_overlap : ∃ left j slice size, ComesTo left j ∧ j.past = [
    ⟨true, .record (standard.announcement slice), {}⟩,
    ⟨false, .start "a", {}⟩,
    ⟨true, .start "b", { operation := some "a" }⟩,
    ⟨false, .record (.operationStart "other" "a"), { operation := some "b" }⟩,
    ⟨true, .record (.operationStart operation "b"), { operation := some "b" }⟩,
    ⟨false, .record (.operationEnd "other" "a" true), { operation := some "b" }⟩,
    ⟨false, .finish "a", { operation := some "b" }⟩,
    ⟨true, .record (Event.probeStart .tcpLatency slice size).draft,
      { operation := some "b" }⟩] := by
  have begun : ComesTo standard.run (starting (Logger.quiet recorder) {}) := .start
  have called := (begun.step (.copy _ 0)).step (.call _ 1 (.startOperation "other" "a"))
  have announced := ((called.ask rfl (0 : Nat)).ask rfl ()).step (.own (i := 0) rfl rfl)
  have older := announced.step (.act (show _ = [] ++ _ from rfl) rfl)
  have opened := (older.ask rfl ("b" : String)).step (.own (i := 0) rfl rfl)
  have recorded := opened.step (.act (show _ = [] ++ _ from rfl) rfl)
  have recorded := recorded.step (.own (i := 0) rfl rfl)
  have ending := recorded.step (.call _ 1 (.endOperation "a" "other" true))
  have ending := ending.step (.act (show _ = [_] ++ _ from rfl) rfl)
  have ended := ending.step (.act (show _ = [_] ++ _ from rfl) rfl)
  exact ⟨_, _, _, _, (ended.ask rfl ()).step (.own (i := 1) rfl rfl), rfl⟩

/-- The other operation has ended, and to end it once more changes nothing. The record of the probe
carries the operation of the run. -/
theorem records_correlated_overlap : ∃ left j, ComesTo left j ∧ starts (acts j.past) = ["a", "b"] ∧
    .finish "a" ∈ acts j.past ∧
    (j.loggers.revise 1 fun c => c.perform (.finish "a")) = j.loggers ∧
    ∃ slice size found, let d := (Event.probeStart .tcpLatency slice size).draft
      ⟨true, .record d, found⟩ ∈ j.past ∧
        ∀ (l : Logger) moment, (l.entry found moment d).correlation = some "b" := by
  obtain ⟨left, j, slice, size, h, hpast⟩ := comesTo_overlap
  have hcorrelated := records_correlated (Logger.quiet recorder) {} rfl standard h
  have hstarts : starts (acts j.past) = ["a", "b"] := by
    rw [hpast]
    rfl
  refine ⟨left, j, h, hstarts, by simp [hpast, acts], ?_, slice, size, { operation := some "b" },
    by simp [hpast], ?_⟩
  · refine hcorrelated.unmoved (by rw [hstarts]; decide) "a" ?_ 1
    rw [hpast]
    exact .older (show acts _ = [_] ++ .start "a" :: _ from rfl) (.head _)
  · refine hcorrelated.carried [_, _] _ [_, _, _, _] _ [] "b" _ hpast rfl rfl rfl rfl ?_
    simp

end Overlap

end Plan

end LoopGauge
