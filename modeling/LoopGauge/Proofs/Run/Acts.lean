import LoopGauge.Proofs.Log.Draft
import LoopGauge.Proofs.Log.Operation
import LoopGauge.Proofs.Measurement.Questions
import LoopGauge.Session.Request

/-!
# What a run does to its context

The questions of a run that concern its logger are answered by calls. A run announces how it shares
its budget, starts its operation, reports what its measurements tell, and ends the operation;
nothing that it records in between names another operation.

## Main definitions

* `Engine.Request.acts`: what is done to the context when a question is answered.
* `Plan.Course`: the acts of a run, in order.

## Main statements

* `Session.Step.answer_eq`: a session does these acts one after the other.
* `Plan.conforms_run`: a run keeps its course.
* `Plan.Course.announces`, `Plan.Course.belongs`: the records of a run before its operation has been
  started, and after that.
-/

namespace LoopGauge

open Log Dialogue

namespace Log.Draft

@[simp]
theorem correlation_operationStart (name id : String) :
    (operationStart name id).correlation = some id :=
  correlation_withFields _ _

@[simp]
theorem correlation_operationEnd (name id : String) (success : Bool) :
    (operationEnd name id success).correlation = some id :=
  correlation_withFields _ _

end Log.Draft

namespace Engine

theorem Event.correlation_about (test : SubTest) (level : Level) (message : String)
    (fields : List (String × Json.Value)) :
    (about test level message fields).correlation = none :=
  Draft.correlation_withFields _ _

/-- No event names an operation by itself. -/
theorem Event.correlation_draft (e : Event) : e.draft.correlation = none := by
  cases e with
  | slicePlan | probeStart | portFallback | roundLost => exact Draft.correlation_withFields _ _
  | setupFailure | cutShort | latencyResult | throughputResult =>
    exact (Draft.correlation_withFields _ _).trans (correlation_about _ _ _ _)

/-- What is done to the context when a question of a run is answered. -/
def Request.acts : (q : Request) → q.Answer → List Act
  | .host _, _ => []
  | .report e, _ => (Call.log e.draft).acts
  | .openOperation name, (id : String) => (Call.startOperation name id).acts
  | .closeOperation id name success, _ => (Call.endOperation id name success).acts
  | .own _, _ => []

end Engine

namespace Session.Step

/-- What has to be asked to answer a question of a run. -/
def known : (q : Engine.Request) → Step q.Answer
  | .host h => .request (Request.host h)
  | .openOperation _ => freshId
  | .report _ | .closeOperation _ _ _ | .own _ => pure ()

/-- Does acts to a context that nobody else has, one after the other. -/
def perform (l : Logger) (c : Context) : List Act → Step Context
  | [] => pure c
  | .record d :: rest => do
    record l c d
    perform l (c.perform (.record d)) rest
  | a :: rest => perform l (c.perform a) rest

/-- A session does the acts of the call by which it answers. -/
theorem answer_eq (l : Logger) (q : Engine.Request) (c : Context) :
    (answer l q).run c = do
      let a ← known q
      let c' ← perform l c (q.acts a)
      return (a, c') := by
  cases q with
  | host h => rfl
  | report e =>
    change (record l c e.draft >>= fun _ => _) = (record l c e.draft >>= fun _ => _) >>= _
    rw [bind_bind]
    rfl
  | openOperation name =>
    refine congrArg (Dialogue.ask _) (funext fun (id : String) => ?_)
    change (record l (c.start id) _ >>= fun _ => _) = (record l (c.start id) _ >>= fun _ => _) >>= _
    rw [bind_bind]
    rfl
  | closeOperation id name success =>
    change (record l c _ >>= fun _ => _) = (record l c _ >>= fun _ => _) >>= _
    rw [bind_bind]
    rfl
  | own owned => rfl

end Session.Step

namespace Plan

open Engine

/-- How the budget is shared is announced. -/
def announcement (p : Plan) (slice : Span) : Draft :=
  (Event.slicePlan p.budget p.enabled slice).draft

/-- A record that names the operation, or none. -/
def Belongs (id : String) (a : Act) : Prop :=
  ∃ d, a = .record d ∧ (d.correlation = none ∨ d.correlation = some id)

/-- The acts of a run whose operation has been started. -/
def Opened (p : Plan) (id : String) (acts : List Act) : Prop :=
  ∃ slice later, p.slice? = some slice ∧
    acts = .record (p.announcement slice) :: .start id :: later ∧ ∀ a ∈ later, Belongs id a

/-- The acts of a run, in order, as far as it has come. -/
inductive Course (p : Plan) : List Act → Prop where
  | begun : Course p []
  | announced {slice : Span} (shared : p.slice? = some slice) :
      Course p [.record (p.announcement slice)]
  | opened {id : String} {acts : List Act} (h : p.Opened id acts) : Course p acts
  | closed {id : String} {acts : List Act} (h : p.Opened id acts) :
      Course p (acts ++ [.finish id])

variable {p : Plan} {id : String} {acts before between after : List Act} {a : Act} {d : Draft}

theorem Opened.append (h : p.Opened id acts) {more : List Act} (hmore : ∀ a ∈ more, Belongs id a) :
    p.Opened id (acts ++ more) := by
  obtain ⟨slice, later, hslice, rfl, hlater⟩ := h
  refine ⟨slice, later ++ more, hslice, rfl, fun a ha => ?_⟩
  exact (List.mem_append.1 ha).elim (hlater a) (hmore a)

theorem not_belongs_start {x : String} : ¬Belongs id (.start x) := by
  rintro ⟨d, h, -⟩
  cases h

theorem not_belongs_finish {x : String} : ¬Belongs id (.finish x) := by
  rintro ⟨d, h, -⟩
  cases h

/-- Once its operation has been started, a run does nothing but record. -/
theorem Opened.belongs
    (h : p.Opened id (before ++ .start x :: between ++ .record d :: after)) :
    x = id ∧ (∀ a ∈ between, Belongs id a) ∧ Belongs id (.record d) := by
  obtain ⟨slice, later, -, heq, hlater⟩ := h
  have hfirst : Act.start x ∉ [Act.record (p.announcement slice)] := by simp
  have hstart : Act.start x ∉ later := fun hmem => not_belongs_start (hlater _ hmem)
  rw [← List.singleton_append, List.append_assoc, List.cons_append] at heq
  obtain ⟨-, hx, rfl⟩ := (List.append_cons_inj_of_notMem hfirst hstart).1 heq.symm
  exact ⟨(Act.start.inj hx).symm, fun a ha => hlater a (by simp [ha]), hlater _ (by simp)⟩

/-- What a run records after the start of its operation comes before the end, and it names the
operation or none. -/
theorem Course.belongs (h : p.Course (before ++ .start id :: between ++ .record d :: after)) :
    (∀ a ∈ between, Belongs id a) ∧ Belongs id (.record d) := by
  generalize hacts : before ++ .start id :: between ++ .record d :: after = acts at h
  cases h with
  | begun => simp at hacts
  | @announced slice shared =>
    have hmem : Act.start id ∈ [Act.record (p.announcement slice)] := by
      rw [← hacts]
      simp
    simp at hmem
  | opened h =>
    subst hacts
    obtain ⟨rfl, hall⟩ := h.belongs
    exact hall
  | closed h =>
    -- The end comes last, so the record was made before it.
    obtain ⟨-, hlast, -⟩ | ⟨after, rfl, -⟩ := concat_eq_append_cons_iff.1 hacts.symm
    · cases hlast
    · obtain ⟨rfl, hall⟩ := h.belongs
      exact hall

/-- The first record of a run is the announcement. -/
theorem eq_announcement {slice : Span} {rest : List Act}
    (h : .record (p.announcement slice) :: .start id :: rest = before ++ .record d :: after)
    (hstart : ∀ x, .start x ∉ before) : d = p.announcement slice := by
  cases before with
  | nil => exact (Act.record.inj (List.cons.inj h).1).symm
  | cons first before =>
    cases before with
    | nil => cases (List.cons.inj (List.cons.inj h).2).1
    | cons second before =>
      obtain rfl := (List.cons.inj (List.cons.inj h).2).1
      exact absurd (by simp) (hstart id)

/-- Before the start of its operation, a run records nothing but the announcement. -/
theorem Course.announces (h : p.Course (before ++ .record d :: after))
    (hstart : ∀ x, .start x ∉ before) :
    ∃ slice, p.slice? = some slice ∧ d = p.announcement slice := by
  generalize hacts : before ++ .record d :: after = acts at h
  cases h with
  | begun => simp at hacts
  | @announced slice shared =>
    cases before with
    | nil => exact ⟨slice, shared, Act.record.inj (List.cons.inj hacts).1⟩
    | cons first before => simp at hacts
  | opened h =>
    obtain ⟨slice, later, hslice, rfl, -⟩ := h
    exact ⟨slice, hslice, eq_announcement hacts.symm hstart⟩
  | closed h =>
    obtain ⟨slice, later, hslice, rfl, -⟩ := h
    exact ⟨slice, hslice, eq_announcement hacts.symm hstart⟩

/-- The acts with those by which a question is answered. -/
def Course.note (q : Request) (answer : q.Answer) (acts : List Act) : List Act :=
  acts ++ q.acts answer

/-- Whatever a question is answered, the acts keep their course. -/
def Course.May (p : Plan) (q : Request) (acts : List Act) : Prop :=
  ∀ answer, p.Course (Course.note q answer acts)

theorem belongs_acts {q : Request} (h : q.Works) (answer : q.Answer) :
    ∀ a ∈ q.acts answer, Belongs id a := by
  cases q with
  | host => simp [Request.acts]
  | report e =>
    intro a ha
    obtain rfl := List.mem_singleton.1 ha
    exact ⟨_, rfl, .inl e.correlation_draft⟩
  | openOperation => exact h.elim
  | closeOperation => exact h.elim
  | own => simp [Request.acts]

/-- Measurements go on with the operation. -/
theorem Opened.conforms {α : Type} {r : Run α} (hr : r.Only Request.Works) (h : p.Opened id acts) :
    r.Conforms Course.note (Course.May p) (fun _ acts => p.Opened id acts) acts := by
  induction r generalizing acts with
  | done a => exact h
  | ask q next ih =>
    have hopened (answer : q.Answer) : p.Opened id (Course.note q answer acts) :=
      h.append (belongs_acts hr.1 answer)
    exact ⟨fun answer => .opened (hopened answer),
      fun answer => ih answer (hr.2 answer) (hopened answer)⟩

/-- A run keeps its course. -/
theorem conforms_run (p : Plan) :
    p.run.Conforms Course.note (Course.May p) (fun _ _ => True) [] := by
  have hclock : Run.clock.Conforms Course.note (Course.May p) (fun _ acts => acts = []) [] :=
    ⟨fun _ => .begun, fun _ => rfl⟩
  refine hclock.bind fun started acts hacts => ?_
  subst hacts
  split
  next => exact ⟨fun _ => .begun, fun _ => trivial⟩
  next slice hslice =>
    refine ⟨fun _ => .announced hslice, fun _ => ?_⟩
    have hopened (id : String) : p.Opened id
        [.record (p.announcement slice), .start id, .record (.operationStart operation id)] := by
      refine ⟨slice, _, hslice, rfl, fun a ha => ?_⟩
      obtain rfl := List.mem_singleton.1 ha
      exact ⟨_, rfl, .inr (Draft.correlation_operationStart _ _)⟩
    refine ⟨fun id => .opened (hopened id), fun (id : String) => ?_⟩
    have hmeasured := only_runEach (fun t => (Probe.ofPlan p t).only_measure slice) p.enabled {}
    refine ((hopened id).conforms hmeasured).bind fun result acts hacts => ?_
    have hclosed : p.Course
        (acts ++ [.record (.operationEnd operation id result.anySuccess), .finish id]) := by
      have hended : p.Opened id
          (acts ++ [.record (.operationEnd operation id result.anySuccess)]) :=
        hacts.append (by simp [Belongs])
      have hclosed := Course.closed hended
      rw [List.append_assoc] at hclosed
      exact hclosed
    refine ⟨fun _ => hclosed, fun _ => ⟨fun _ => ?_, fun _ => trivial⟩⟩
    rw [Course.note, Request.acts, List.append_nil]
    exact hclosed

end Plan

end LoopGauge
