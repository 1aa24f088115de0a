import LoopGauge.Machine.Offline
import LoopGauge.Proofs.Result.Loss
import LoopGauge.Proofs.Run.Rounds
import LoopGauge.Proofs.Statistics.Ordered

/-!
# The account of the rounds

Every round of a measurement is counted once: as a sample if it had an echo, and as lost if it was a
datagram without one. The figures of the result are those counts, and none of them is cut off.

## Main definitions

* `Engine.LatencyProbe.Accounted`: what the rounds that were made say of what they have brought.
* `Engine.LatencyProbe.Reported`: what they say of the result.

## Main statements

* `Engine.LatencyProbe.Made.hasRoom`: no round starts without room or after the deadline.
* `Engine.LatencyProbe.rounds_accounted`: the account of every measurement.
-/

namespace LoopGauge.Engine

open Number

/-- What holds at every place of a list holds at its head and at every place of its tail. -/
theorem forall_place_cons {α : Type} {x : α} {xs : List α} {P : List α → α → List α → Prop}
    (head : P [] x xs)
    (tail : ∀ before y after, xs = before ++ y :: after → P (x :: before) y after) :
    ∀ before y after, x :: xs = before ++ y :: after → P before y after := by
  intro before y after heq
  cases before with
  | nil =>
    obtain ⟨rfl, rfl⟩ := List.cons.inj heq
    exact head
  | cons z before =>
    obtain ⟨rfl, rfl⟩ := List.cons.inj heq
    exact tail before y after rfl

namespace LatencyProbe

variable {p : LatencyProbe} {server : Address} {deadline number : Nat} {before made : List Round}
  {ending : Ending} {rounds : Rounds}

section Made

variable {W : Type} {answers : Answers W Request.Answer} {w w' : W} {r : Round}

theorem Plays.now_lt (h : Plays answers p server deadline number w r w') : r.now < deadline := by
  cases h with
  | echoed look early start exchange finish => exact early
  | failed look early start exchange reported => exact early

/-- Every round starts with room for a sample, and before the deadline. -/
theorem Made.hasRoom (h : Made answers p server deadline before w made ending w') :
    ∀ earlier r later, made = earlier ++ r :: later →
      p.HasRoom (before ++ earlier) ∧ r.now < deadline := by
  induction h with
  | full | worn | late => simp
  | @last before w w₁ r room plays ends =>
    exact forall_place_cons ⟨by rwa [List.append_nil], plays.now_lt⟩ (by simp)
  | @next before made w w₁ w₂ r ending room plays goesOn rest ih =>
    refine forall_place_cons ⟨by rwa [List.append_nil], plays.now_lt⟩ ?_
    intro earlier s later heq
    rw [List.append_cons]
    exact ih earlier s later heq

/-- A round after which rounds do not go on is the last. -/
theorem Made.later_eq_nil (h : Made answers p server deadline before w made ending w') :
    ∀ earlier r later, made = earlier ++ r :: later → ¬p.GoesOn r →
      later = [] ∧ ending = .broken := by
  induction h with
  | full | worn | late => simp
  | last room plays ends => exact forall_place_cons (fun _ => ⟨rfl, rfl⟩) (by simp)
  | next room plays goesOn rest ih =>
    exact forall_place_cons (fun hends => absurd goesOn hends) ih

/-- Why there are no more rounds after all that were made. -/
def Ending.Due (p : LatencyProbe) (deadline : Nat) (made : List Round) : Ending → Prop
  | .full => p.maxSamples.toNat ≤ (Round.times made).length
  | .late now => p.HasRoom made ∧ deadline ≤ now
  | .broken => ∃ r, made.getLast? = some r ∧ ¬p.GoesOn r
  | .worn => p.transport = .udp ∧ patience ≤ made.length

theorem Made.due (h : Made answers p server deadline before w made ending w') :
    ending.Due p deadline (before ++ made) := by
  induction h with
  | full enough => rwa [List.append_nil]
  | worn udp below many => exact ⟨udp, by rwa [List.append_nil]⟩
  | late room look tooLate => exact ⟨by rwa [List.append_nil], tooLate⟩
  | last room plays ends => exact ⟨_, List.getLast?_concat, ends⟩
  | next room plays goesOn rest ih => rwa [List.append_assoc, List.singleton_append] at ih

/-- No round makes more samples than there is room for, or more rounds than can be counted. -/
theorem Made.bounded (h : Made answers p server deadline [] w made ending w') :
    (Round.times made).length ≤ p.maxSamples.toNat ∧
      (p.transport = .udp → made.length ≤ patience) := by
  obtain rfl | ⟨earlier, r, rfl⟩ := List.eq_nil_or_concat' made
  · exact ⟨Nat.zero_le _, fun _ => Nat.zero_le _⟩
  · obtain ⟨⟨below, patient⟩, -⟩ := h.hasRoom earlier r [] rfl
    rw [List.nil_append] at below patient
    have hsamples : (Round.times (earlier ++ [r])).length ≤ (Round.times earlier).length + 1 := by
      rw [Round.times_concat, List.length_append]
      exact Nat.add_le_add_left (by cases r.time? <;> simp) _
    refine ⟨by omega, fun hudp => ?_⟩
    have hcount := patient hudp
    rw [List.length_append, List.length_singleton]
    omega

end Made

/-- What the rounds that were made say of what they have brought. -/
structure Accounted (p : LatencyProbe) (deadline : Nat) (made : List Round) (ending : Ending)
    (rounds : Rounds) : Prop where
  /-- A round starts only below the cap and before the deadline. -/
  starts : ∀ earlier r later, made = earlier ++ r :: later →
    (Round.times earlier).length < p.maxSamples.toNat ∧ r.now < deadline
  /-- The samples are the times of the rounds with an echo, in their order. -/
  samples : rounds.samples.toList = Round.times made
  capped : rounds.samples.size ≤ p.maxSamples.toNat
  /-- A datagram has an echo or is lost, and none that is lost ends the rounds. -/
  datagrams : p.transport = .udp →
    rounds.samples.size + rounds.lost = made.length ∧ ending ≠ .broken
  /-- Over a stream nothing is lost, but no round follows one that fails. -/
  streams : p.transport = .tcp → rounds.lost = 0 ∧
    ∀ earlier r later, made = earlier ++ r :: later → r.failed → later = [] ∧ ending = .broken
  /-- The rounds end for a reason. -/
  ends : ending.Due p deadline made

/-- What the rounds that were made say of the result. -/
structure Reported (p : LatencyProbe) (made : List Round) (result : LatencyResult) : Prop where
  count : result.sampleCount.toNat = (Round.times made).length
  capped : result.sampleCount ≤ p.maxSamples
  success : result.success ↔ ∃ r ∈ made, ¬r.failed
  lost : result.lostRounds.toNat =
    match p.transport with
    | .tcp => 0
    | .udp => Round.losses made
  /-- The percentage of lost rounds, if it is taken without rounding. -/
  share : ∀ root, LatencyResult.lossShare (Arithmetic.exact root) result.lostRounds.toNat
      result.attempted.toNat =
    if made = [] then (0 : ℚ) else 100 * (result.lostRounds.toNat : ℚ) / (made.length : ℚ)

section Account

variable {W : Type} {answers : Answers W Request.Answer} {w w' : W}

theorem lost_tally_tcp (htcp : p.transport = .tcp) (made : List Round) :
    (p.tally made).lost = 0 := by
  simp only [tally, htcp]

theorem lost_tally_udp (hudp : p.transport = .udp) (made : List Round) :
    (p.tally made).lost = Round.losses made := by
  simp only [tally, hudp]

theorem Made.accounted (h : Made answers p server deadline [] w made ending w') :
    Accounted p deadline made ending (p.tally made) where
  starts earlier r later heq := by
    obtain ⟨room, early⟩ := h.hasRoom earlier r later heq
    exact ⟨room.1, early⟩
  samples := rfl
  capped := by
    rw [size_tally]
    exact h.bounded.1
  datagrams hudp := by
    refine ⟨?_, ?_⟩
    · rw [size_tally, lost_tally_udp hudp, Round.length_times_add_losses]
    · rintro rfl
      obtain ⟨r, -, ends⟩ := h.due
      exact ends (goesOn_of_udp hudp r)
  streams htcp := by
    refine ⟨lost_tally_tcp htcp made, fun earlier r later heq hfailed => ?_⟩
    refine h.later_eq_nil earlier r later heq fun goesOn => ?_
    rw [goesOn htcp] at hfailed
    cases hfailed
  ends := h.due

theorem count_ofSamples (samples : List Binary64) :
    (Statistics.ofSamples samples).count = samples.length := by
  rw [Statistics.ofSamples, Statistics.count_summarise,
    (Statistics.ordered_perm _ samples).length_eq]

/-- There are samples exactly if a round had an echo. -/
theorem times_ne_nil_iff : Round.times made ≠ [] ↔ ∃ r ∈ made, ¬r.failed := by
  rw [Round.times, ne_eq, List.filterMap_eq_nil_iff, not_forall₂]
  simp only [Round.failed, Option.isNone_iff_eq_none, exists_prop]

theorem success_ofSamples_iff (samples : List Binary64) :
    (Statistics.ofSamples samples).success ↔ samples ≠ [] := by
  rw [Statistics.Summary.success, count_ofSamples, decide_eq_true_iff, List.length_pos_iff]

/-- All rounds are few enough to be counted in a word. -/
theorem Made.counted_le (h : Made answers p server deadline [] w made ending w') :
    (p.tally made).samples.size + (p.tally made).lost ≤ patience := by
  obtain ⟨hcapped, hpatient⟩ := h.bounded
  rw [size_tally]
  cases ht : p.transport with
  | tcp =>
    rw [lost_tally_tcp ht]
    exact hcapped.trans (Nat.le_of_lt_succ p.maxSamples.toNat_lt)
  | udp =>
    rw [lost_tally_udp ht, Round.length_times_add_losses]
    exact hpatient ht

/-- Counts that fit into a word are reported as they are. -/
theorem counts_result (h : rounds.samples.size + rounds.lost ≤ patience) :
    rounds.result.sampleCount.toNat = rounds.samples.size ∧
      rounds.result.lostRounds.toNat = rounds.lost ∧
      rounds.result.attempted.toNat = rounds.samples.size + rounds.lost := by
  have hfits : ∀ n, n ≤ patience → (UInt64.ofNat n).toNat = n := fun n hn =>
    UInt64.toNat_ofNat_of_lt' (Nat.lt_succ_of_le hn)
  have hcount : rounds.result.sampleCount = UInt64.ofNat rounds.samples.size := by
    rw [← Array.length_toList, ← count_ofSamples]
    rfl
  have hlost : rounds.result.lostRounds = UInt64.ofNat rounds.lost := rfl
  refine ⟨by rw [hcount, hfits _ (by omega)], by rw [hlost, hfits _ (by omega)], ?_⟩
  rw [LatencyResult.attempted, hcount, hlost, ← UInt64.ofNat_add, hfits _ h]

theorem Made.reported (h : Made answers p server deadline [] w made ending w') :
    Reported p made (p.tally made).result := by
  obtain ⟨hcount, hlost, hattempted⟩ := counts_result h.counted_le
  rw [size_tally] at hcount hattempted
  refine ⟨hcount, ?_, ?_, hlost, fun root => ?_⟩
  · rw [UInt64.le_iff_toNat_le, hcount]
    exact h.bounded.1
  · exact (success_ofSamples_iff _).trans times_ne_nil_iff
  · rw [LatencyResult.lossShare_exact, hattempted, hlost]
    cases ht : p.transport with
    | tcp =>
      rw [lost_tally_tcp ht]
      simp
    | udp =>
      rw [lost_tally_udp ht, Round.length_times_add_losses]
      simp only [List.length_eq_zero_iff]

/-- The rounds of a probe can be counted, so no build stops at their sum. -/
theorem isSome_attempted?_of_measure {budget : Span} {result : LatencyResult}
    (h : (p.measure budget).Yields answers w result w') : result.attempted?.isSome := by
  obtain rfl | ⟨server, rounds, w₁, w₂, hrounds, rfl⟩ := rounds_of_measure h
  · rfl
  · obtain ⟨deadline, w₃, made, ending, -, hmade, rfl⟩ := yields_rounds.1 hrounds
    obtain ⟨hcount, hlost, hattempted⟩ := counts_result hmade.counted_le
    rw [LatencyResult.attempted?_eq_some_iff.2 (hattempted.trans (by rw [hcount, hlost]))]
    rfl

theorem sampleCap_le (requested : UInt64) : Limits.sampleCap requested ≤ 8192 :=
  (Limits.within_bounds (by decide) requested).2

/-- **Every round is accounted for once**. Whatever the clock says and whatever becomes of the
rounds, each of them starts below the cap and before the deadline, and makes a sample or is lost, if
it is a datagram; a stream has no round after one that fails. The result counts what there was,
it is a success if there was a sample, and its share of lost rounds is taken of all of them. A probe
reports such a result unless its rounds could not be set up. -/
theorem rounds_accounted (answers : Answers W Request.Answer) (probe : LatencyProbe)
    (requested : UInt64) (budget : Span) (server : Address) (w : W) :
    let p := probe.withMaxSamples requested
    p.maxSamples ≤ 8192 ∧
    ((∀ w q, ∃ answer w', answers w q answer w') →
      ∃ rounds w', (p.rounds budget server).Yields answers w rounds w') ∧
    (∀ rounds w', (p.rounds budget server).Yields answers w rounds w' →
      ∃ deadline w₁ made ending, (Run.deadlineAfter budget).Yields answers w deadline w₁ ∧
        Made answers p server deadline [] w₁ made ending w' ∧
        Accounted p deadline made ending rounds ∧ Reported p made rounds.result) ∧
    ∀ result w', (p.measure budget).Yields answers w result w' →
      result = .failed ∨ ∃ server rounds w₁ w₂,
        (p.rounds budget server).Yields answers w₁ rounds w₂ ∧ result = rounds.result := by
  intro p
  refine ⟨sampleCap_le requested, fun hanswers => Dialogue.exists_yields hanswers _ w,
    fun rounds w' h => ?_, fun result w' h => rounds_of_measure h⟩
  obtain ⟨deadline, w₁, made, ending, opened, hmade, rfl⟩ := yields_rounds.1 h
  exact ⟨deadline, w₁, made, ending, opened, hmade, hmade.accounted, hmade.reported⟩

end Account

section Lossy

/-- A world that may answer anything. -/
def anything : Answers Unit Request.Answer := fun _ _ _ _ => True

/-- A probe of datagrams that have no room for a tag, with a cap of two samples. -/
def tiny : LatencyProbe := ((LatencyProbe.standard .udp).withMessageSize 1).withMaxSamples 2

theorem clock_yields (now : Nat) : Run.clock.Yields anything () now () :=
  Dialogue.yields_request.2 trivial

/-- A datagram is lost, the next one has its echo, and then it is too late. -/
theorem tiny_yields :
    ∃ rounds, (tiny.rounds (Span.ofMillis 1000) (.loopback 50000)).Yields anything () rounds () ∧
      rounds.samples.size = 1 ∧ rounds.lost = 1 := by
  have opened : (Run.deadlineAfter (Span.ofMillis 1000)).Yields anything () 1000000000 () :=
    Dialogue.yields_bind.2 ⟨0, (), clock_yields 0, Dialogue.yields_done.2 ⟨by decide, rfl⟩⟩
  have unsent : (Run.talk (tiny.exchange (.loopback 50000) 1 0)).Yields anything ()
      (.error ⟨.transport, "send failed: unreachable"⟩) () :=
    Dialogue.yields_ask.2 ⟨(0 : Nat), (), trivial,
      Dialogue.yields_ask.2 ⟨(.error "unreachable" : Except String Nat), (), trivial, .done _ _⟩⟩
  have echoed : (Run.talk (tiny.exchange (.loopback 50000) 2 5)).Yields anything () (.ok ()) () :=
    Dialogue.yields_ask.2 ⟨(5 : Nat), (), trivial,
      Dialogue.yields_ask.2 ⟨(.ok 1 : Except String Nat), (), trivial,
        Dialogue.yields_ask.2 ⟨(6 : Nat), (), trivial,
          Dialogue.yields_ask.2 ⟨(.ready (⟨#[0]⟩, .loopback 50000) :
            Timed (ByteArray × Address)), (), trivial, .done _ _⟩⟩⟩⟩
  have first : Plays anything tiny (.loopback 50000) 1000000000 1 ()
      ⟨0, .error ⟨.transport, "send failed: unreachable"⟩⟩ () :=
    .failed (clock_yields 0) (by decide) (clock_yields 0) unsent
      (Dialogue.yields_request.2 trivial)
  have second : Plays anything tiny (.loopback 50000) 1000000000 2 ()
      ⟨4, .ok (microsBetween 5 7)⟩ () :=
    .echoed (clock_yields 4) (by decide) (clock_yields 5) echoed (clock_yields 7)
  have hmade : Made anything tiny (.loopback 50000) 1000000000 [] () _ (.late 1000000000) () :=
    .next (by decide) first (goesOn_of_udp rfl _)
      (.next (by decide) second (goesOn_of_udp rfl _)
        (.late (by decide) (clock_yields 1000000000) (Nat.le_refl _)))
  exact ⟨_, yields_rounds.2 ⟨_, _, _, _, opened, hmade, rfl⟩, rfl, rfl⟩

theorem rounds_accounted_tiny :
    (∀ w q, ∃ answer w', anything w q answer w') ∧
      (∃ rounds deadline made ending,
        (tiny.rounds (Span.ofMillis 1000) (.loopback 50000)).Yields anything () rounds () ∧
        rounds.samples.size = 1 ∧ rounds.lost = 1 ∧
        Accounted tiny deadline made ending rounds ∧ Reported tiny made rounds.result) ∧
      ∃ result, (tiny.measure (Span.ofMillis 1000)).Yields anything () result () ∧
        (result = .failed ∨ ∃ server rounds,
          (tiny.rounds (Span.ofMillis 1000) server).Yields anything () rounds () ∧
          result = rounds.result) := by
  have hanswers : ∀ w q, ∃ answer w', anything w q answer w' := fun w q =>
    ⟨((Machine.Offline.answerRun q).run {}).1, (), trivial⟩
  obtain ⟨-, hreturns, haccount, hreport⟩ := rounds_accounted anything tiny 2 (Span.ofMillis 1000)
    (.loopback 50000) ()
  obtain ⟨-, -, -⟩ := hreturns hanswers
  obtain ⟨rounds, h, hsamples, hlost⟩ := tiny_yields
  obtain ⟨deadline, -, made, ending, -, -, haccounted, hreported⟩ := haccount rounds () h
  obtain ⟨result, w', hmeasure⟩ :=
    Dialogue.exists_yields hanswers (tiny.measure (Span.ofMillis 1000)) ()
  refine ⟨hanswers, ⟨rounds, deadline, made, ending, h, hsamples, hlost, haccounted, hreported⟩,
    result, hmeasure, (hreport result () hmeasure).imp id ?_⟩
  rintro ⟨server, rounds, w₁, w₂, hrounds, hresult⟩
  exact ⟨server, rounds, hrounds, hresult⟩

end Lossy

end LatencyProbe

end LoopGauge.Engine
