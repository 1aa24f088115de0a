import LoopGauge.Proofs.Log.Draft
import LoopGauge.Proofs.Log.Past
import LoopGauge.Proofs.Statistics.Ordered

/-!
# What is written of a record

A logger is one of a family, and what has been done with the family is known. Then it is known what
the logger writes of a draft. Its fields come from three sources, of which the context fields win
over the session, and the session wins over what the draft was told. The line for a terminal does
not depend on an order in which fields of different keys were added or are looked through.

## Main definitions

* `Context.fieldDue`: what a record has for a key.

## Main statements

* `Loggers.Past.record_written`: which record is written, whether it is, and to which stream.
-/

namespace LoopGauge.Log

open Json

/-! ## Fields of a record -/

namespace Context

variable {c : Context} {key : String} {given fields : List (String × Value)}

def sessionField? (session : Option String) (key : String) : Option Value :=
  if key = "session_id" then session.map Value.text else none

theorem find?_complete :
    find? key (c.complete fields) =
      (latest? key c.fields).or ((sessionField? c.session key).or (find? key fields)) := by
  refine (find?_foldl_insertKey _ _).trans (congrArg _ ?_)
  cases c.session with
  | none =>
    rw [sessionField?, Option.map_none, ite_self, Option.none_or]
  | some id =>
    rw [find?_insertKey, sessionField?]
    by_cases h : key = "session_id"
    · rw [if_pos h, if_pos h.symm]
      rfl
    · rw [if_neg h, if_neg (Ne.symm h), Option.none_or]

theorem pairwise_complete (h : fields.Pairwise fun e e' => e.1 < e'.1) :
    (c.complete fields).Pairwise fun e e' => e.1 < e'.1 := by
  refine pairwise_foldl_insertKey ?_ c.fields
  cases c.session with
  | none => exact h
  | some id => exact pairwise_insertKey h

theorem complete_of_perm (hgiven : given.Perm c.fields)
    (hdistinct : (c.fields.map Prod.fst).Nodup) (hfields : fields.Pairwise fun e e' => e.1 < e'.1) :
    { c with fields := given }.complete fields = c.complete fields := by
  have hdistinct' := (hgiven.map Prod.fst).nodup_iff.2 hdistinct
  refine eq_of_find? (pairwise_complete hfields) (pairwise_complete hfields) fun key => ?_
  rw [find?_complete, find?_complete, latest?_of_perm hgiven hdistinct']

end Context

/-! ## The line for a terminal -/

namespace Logger

variable {fields kept : List (String × Value)}

theorem linear_text : Statistics.Linear fun s t : String => decide (s ≤ t) where
  trans s t u hst htu := decide_eq_true ((of_decide_eq_true hst).trans (of_decide_eq_true htu))
  total s t := by simpa using le_total s t
  antisymm s t hst hts := le_antisymm (of_decide_eq_true hst) (of_decide_eq_true hts)

theorem fieldsText_of_perm (h : kept.Perm fields) : fieldsText kept = fieldsText fields := by
  have htexts := h.symm.map fun e : String × Value => e.1 ++ "=" ++ e.2.compactText
  have hsorted := linear_text.ordered_eq_of_perm htexts
  exact congrArg (fun texts => "\x7b" ++ Text.join ", " texts ++ "\x7d") hsorted

/-- The fields of a record may be gone through in any order. -/
theorem consoleLine_of_perm (l : Logger) (e : Entry) (h : kept.Perm e.fields) :
    l.consoleLine { e with fields := kept } = l.consoleLine e := by
  have hempty : kept.isEmpty = e.fields.isEmpty := by
    rw [Bool.eq_iff_iff, List.isEmpty_iff_length_eq_zero, List.isEmpty_iff_length_eq_zero,
      h.length_eq]
  simp only [consoleLine, hempty, fieldsText_of_perm h]

end Logger

/-! ## Records of a family with a known past -/

def sessionOf (turns : List Turn) : Option String :=
  ((Turn.acts turns).filterMap Act.session?).getLast?

/-- What a record has for a key: the last context field, else the session, else what the draft was
told last. -/
def fieldDue (turns : List Turn) (details : List Detail) (key : String) : Option Value :=
  (latest? key (turns.flatMap Turn.fields)).or
    ((Context.sessionField? (sessionOf turns) key).or (latest? key (details.flatMap Detail.fields)))

/-- What a record of a logger holds, drafted with these details, in a family with this past. -/
structure Holds (l : Logger) (c : Context) (turns : List Turn) (details : List Detail)
    (e : Entry) : Prop where
  logger : e.logger = l.name
  location : e.location = (details.filterMap Detail.location?).getLast?
  /-- The operation that the draft was told last, or else the one that the context knows. -/
  correlation : e.correlation = (details.filterMap Detail.correlation?).getLast?.or c.operation
  once : (e.fields.map Prod.fst).Nodup
  fields : ∀ key, find? key e.fields = fieldDue turns details key

variable {first l : Logger} {ls : Loggers} {turns : List Turn} {details details' : List Detail}
  {i : Nat} {level : Level} {message : String}

theorem pairwise_fields_drafted :
    (drafted level message details).fields.Pairwise fun e e' => e.1 < e'.1 := by
  rw [drafted_eq]
  exact pairwise_sortKeys _

theorem nodup_fields_contextAfter (acts : List Act) :
    ((contextAfter acts).fields.map Prod.fst).Nodup := by
  rw [fields_contextAfter]
  exact nodup_keys (pairwise_sortKeys _)

theorem find?_complete_drafted (key : String) :
    find? key ((contextAfter (Turn.acts turns)).complete (drafted level message details).fields) =
      fieldDue turns details key := by
  rw [Context.find?_complete, latest?_of_nodup (nodup_fields_contextAfter _), fields_contextAfter,
    session_contextAfter, drafted_eq, find?_sortKeys_eq_latest?, find?_sortKeys_eq_latest?,
    Turn.flatMap_fields_acts]
  rfl

theorem holds_entry (l : Logger) (moment : Time.Moment) :
    Holds l (contextAfter (Turn.acts turns)) turns details
      (l.entry (contextAfter (Turn.acts turns)) moment (drafted level message details)) where
  logger := rfl
  location := by rw [drafted_eq]; rfl
  correlation := by rw [drafted_eq]; rfl
  once := nodup_keys (Context.pairwise_complete pairwise_fields_drafted)
  fields := find?_complete_drafted

theorem consoleLine_rearranged {c : Context} {given kept : List (String × Value)}
    (hdetails : Rearranged Detail.fields details details') (hgiven : given.Perm c.fields)
    (hdistinct : (c.fields.map Prod.fst).Nodup)
    (hkept : kept.Perm
      ({ c with fields := given }.complete (drafted level message details').fields))
    (l : Logger) (moment : Time.Moment) :
    l.consoleLine { l.entry c moment (drafted level message details') with fields := kept } =
      l.consoleLine (l.entry c moment (drafted level message details)) := by
  rw [← drafted_rearranged hdetails] at hkept ⊢
  rw [Context.complete_of_perm hgiven hdistinct pairwise_fields_drafted] at hkept
  exact l.consoleLine_of_perm _ hkept

theorem Loggers.Past.context?_eq (past : Past first turns ls) (hi : ls.logger? i = some l) :
    ls.context? i = some (contextAfter (Turn.acts turns)) := by
  obtain ⟨member, hmember, -⟩ := Option.map_eq_some_iff.1 hi
  exact past.share.context?_eq (List.getElem?_eq_some_iff.1 hmember).1

/-- A record is written if its level is admitted: to standard error if it warns or if nothing may go
to standard output, and to standard output otherwise. Its line for a terminal is the same whatever
the order in which fields of different keys were added to the context and told to the draft, and
whatever the order in which maps of fields are gone through. -/
theorem Loggers.Past.record_written (past : Past first turns ls) (hi : ls.logger? i = some l)
    (moment : Time.Moment) (level : Level) (message : String) (details : List Detail) :
    l.name = first.name ∧ l.errorOnly = first.errorOnly ∧
    ∃ c e, ls.context? i = some c ∧ c.Agrees (Turn.acts turns) ∧
      ls.write i moment (drafted level message details) =
        (if l.admits level then
          some (if l.errorOnly || level.atLeast .warn then .error else .output, l.line e)
        else none) ∧
      e.moment = moment ∧ e.level = level ∧ e.message = message ∧ Holds l c turns details e ∧
      ∀ turns' ls' details' given kept, Past first turns' ls' →
        Rearranged Turn.fields turns turns' → Rearranged Detail.fields details details' →
        given.Perm c.fields →
        kept.Perm ({ c with fields := given }.complete (drafted level message details').fields) →
        ls'.logger? i = some l ∧ ls'.context? i = some c ∧
          l.consoleLine { l.entry c moment (drafted level message details') with fields := kept } =
            l.consoleLine e := by
  obtain ⟨hname, herrorOnly⟩ := past.alike hi
  have hcontext := past.context?_eq hi
  have hdraft := drafted_eq level message details
  refine ⟨hname, herrorOnly, contextAfter (Turn.acts turns),
    l.entry (contextAfter (Turn.acts turns)) moment (drafted level message details), hcontext,
    agrees_contextAfter _, ?writes, rfl, congrArg Draft.level hdraft, congrArg Draft.message hdraft,
    holds_entry l moment, ?line⟩
  case writes =>
    have hlevel : (drafted level message details).level = level := congrArg Draft.level hdraft
    rw [Loggers.write, hi, hcontext]
    change Logger.write _ _ _ _ = _
    rw [Logger.write, hlevel]
    rfl
  case line =>
    intro turns' ls' details' given kept past' hturns hdetails hgiven hkept
    obtain rfl := past.rearranged past' hturns
    refine ⟨hi, hcontext, ?_⟩
    exact consoleLine_rearranged hdetails hgiven (nodup_fields_contextAfter _) hkept l moment

/-- A copy that admits more than the first logger shows what either of them has added to the
context. -/
theorem Loggers.Past.record_written_copy :
    ∃ ls ls' l c e,
      Past { name := "A" } [.copy 0, .choose 1 (.level .debug), .act 0 (.setSession "s"),
        .act 1 (.addField "host" (.text "here")), .act 0 (.addField "port" (.whole 80))] ls ∧
      Past { name := "A" } [.act 0 (.addField "port" (.whole 80)), .copy 0,
        .act 0 (.addField "host" (.text "here")), .choose 1 (.level .debug),
        .act 0 (.setSession "s")] ls' ∧
      ls.logger? 1 = some l ∧ ls.context? 1 = some c ∧
      ls.write 1 ⟨0, 0⟩ (drafted .debug "ready" [.field "host" (.text "there"),
        .correlation "op", .field "step" (.whole 2)]) = some (.output, l.line e) ∧
      find? "host" e.fields = some (.text "here") ∧
      find? "session_id" e.fields = some (.text "s") ∧
      e.correlation = some "op" ∧
      ls'.logger? 1 = some l ∧
      l.consoleLine (l.entry c ⟨0, 0⟩ (drafted .debug "ready" [.correlation "op",
        .field "step" (.whole 2), .field "host" (.text "there")])) = l.consoleLine e := by
  have past : Past { name := "A" } [.copy 0, .choose 1 (.level .debug), .act 0 (.setSession "s"),
      .act 1 (.addField "host" (.text "here")), .act 0 (.addField "port" (.whole 80))] _ :=
    ((((Past.new.turn (.copy 0) (by decide)).turn (.choose 1 _) (by decide)).turn
      (.act 0 _) (by decide)).turn (.act 1 _) (by decide)).turn (.act 0 _) (by decide)
  have past' : Past { name := "A" } [.act 0 (.addField "port" (.whole 80)), .copy 0,
      .act 0 (.addField "host" (.text "here")), .choose 1 (.level .debug),
      .act 0 (.setSession "s")] _ :=
    ((((Past.new.turn (.act 0 _) (by decide)).turn (.copy 0) (by decide)).turn
      (.act 0 _) (by decide)).turn (.choose 1 _) (by decide)).turn (.act 0 _) (by decide)
  obtain ⟨-, -, c, e, hc, -, hwrite, -, -, -, hholds, hline⟩ := past.record_written (i := 1) rfl ⟨0, 0⟩
    .debug "ready" [.field "host" (.text "there"), .correlation "op", .field "step" (.whole 2)]
  obtain ⟨hl', -, heq⟩ := hline _ _ [.correlation "op", .field "step" (.whole 2),
    .field "host" (.text "there")] c.fields _ past' (.of_perm rfl (.swap _ _ _) (by decide))
    (.of_perm rfl (.swap _ _ _) (by decide)) (.refl _) (.refl _)
  exact ⟨_, _, _, c, e, past, past', rfl, hc, hwrite, hholds.fields "host",
    hholds.fields "session_id", hholds.correlation, hl', heq⟩

end LoopGauge.Log
