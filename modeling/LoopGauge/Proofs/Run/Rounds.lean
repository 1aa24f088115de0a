import LoopGauge.Engine.Latency
import LoopGauge.Proofs.Dialogue
import Mathlib.Data.List.Basic

/-!
# The rounds of a measurement

A measurement of round-trip times looks at the clock before each round. The two transports differ
in the exchange that a round is, in what is reported of one that fails, and in what follows: over a
stream a failed round is the last one, a lost datagram is followed by the next round. Everything
else is the same, so the rounds of both are described together.

## Main definitions

* `Engine.Round`: a round that was made.
* `Engine.LatencyProbe.Plays`: a round in a world.
* `Engine.LatencyProbe.Made`: rounds one after the other, and why there are no more.

## Main statements

* `Engine.LatencyProbe.yields_rounds`: a measurement yields what the rounds that are made bring.
* `Engine.LatencyProbe.rounds_of_measure`: and a probe reports the result of that.
-/

namespace LoopGauge.Engine

open Number

/-- A round that was made: the reading of the clock that let it start, and the microseconds until
its echo or the fault that it has ended with. -/
structure Round where
  now : Nat
  outcome : Except Fault Binary64

namespace Round

def time? (r : Round) : Option Binary64 := r.outcome.toOption

/-- Whether a round had no echo. -/
def failed (r : Round) : Bool := r.time?.isNone

/-- The times of the rounds that had an echo, in the order of the rounds. -/
def times (made : List Round) : List Binary64 := made.filterMap time?

/-- How many rounds had none. -/
def losses (made : List Round) : Nat := made.countP failed

variable {r : Round} {made : List Round}

theorem times_concat (made : List Round) (r : Round) :
    times (made ++ [r]) = times made ++ r.time?.toList := by
  rw [times, times, List.filterMap_append]
  cases h : r.time? <;> simp [h]

theorem length_times_concat (h : r.failed = false) (made : List Round) :
    (times (made ++ [r])).length = (times made).length + 1 := by
  obtain ⟨us, hus⟩ := Option.isSome_iff_exists.1 (Option.isNone_eq_false_iff.1 h)
  rw [times_concat, hus, List.length_append]
  rfl

theorem losses_concat (made : List Round) (r : Round) :
    losses (made ++ [r]) = losses made + if r.failed then 1 else 0 := by
  rw [losses, losses, List.countP_append, List.countP_singleton]

/-- Every round has an echo or is lost. -/
theorem length_times_add_losses (made : List Round) :
    (times made).length + losses made = made.length := by
  have hnone : failed = fun r => decide ¬r.time?.isSome := by
    funext r
    cases h : r.time? <;> simp [failed, h]
  rw [times, List.length_filterMap_eq_countP, losses, hnone,
    ← List.length_eq_countP_add_countP]

end Round

namespace Attempt

variable {W α : Type} {answers : Answers W Request.Answer} {w w' : W}

theorem yields_step {r : Run α} {a : α} :
    (step r).run.Yields answers w (.ok a) w' ↔ r.Yields answers w a w' := by
  rw [step, ExceptT.run_lift, Dialogue.yields_map]
  constructor
  · rintro ⟨b, h, hb⟩
    obtain rfl := Except.ok.inj hb
    exact h
  · intro h
    exact ⟨a, h, rfl⟩

/-- A measurement between client and background task has its result from the client. -/
theorem measured_of_yields {test : SubTest} {task : Task} {measure : Address → Run α}
    {a : α × Option UInt64}
    (h : (withTask test task measure).run.Yields answers w (.ok a) w') :
    ∃ server w₁ w₂, (measure server).Yields answers w₁ a.1 w₂ := by
  obtain ⟨server, w₁, -, h⟩ := Dialogue.yields_attempt_bind.1 h
  obtain ⟨background, w₂, -, h⟩ := Dialogue.yields_attempt_bind.1 h
  obtain ⟨-, w₃, -, h⟩ := Dialogue.yields_attempt_bind.1 h
  obtain ⟨client, w₄, -, h⟩ := Dialogue.yields_attempt_bind.1 h
  cases client with
  | error fault =>
    obtain ⟨-, w₅, -, h⟩ := Dialogue.yields_attempt_bind.1 h
    cases h
  | ok _ =>
    obtain ⟨result, w₅, hmeasure, h⟩ := Dialogue.yields_attempt_bind.1 h
    obtain ⟨counted, w₆, -, h⟩ := Dialogue.yields_attempt_bind.1 h
    obtain ⟨-, w₇, -, h⟩ := Dialogue.yields_attempt_bind.1 h
    obtain ⟨heq, -⟩ := Dialogue.yields_done.1 h
    obtain rfl := Except.ok.inj heq
    exact ⟨server, w₄, w₅, yields_step.1 hmeasure⟩

end Attempt

namespace LatencyProbe

/-- Why no more rounds are made. -/
inductive Ending where
  /-- There is no room for a sample. -/
  | full
  /-- The clock has reached the deadline. -/
  | late (now : Nat)
  /-- A round over a stream has failed. -/
  | broken
  /-- There have been as many datagrams as a word can count. -/
  | worn
deriving DecidableEq

section Definitions

variable (p : LatencyProbe) (server : Address) (deadline : Nat)

/-- How the exchange over a stream ends for its round. -/
def outcomeOf (limit : Span) : Timed ByteArray → Except Fault Unit
  | .ready _ => .ok ()
  | .failed cause => .error ⟨.transport, cause⟩
  | .expired => .error (noEcho limit)

/-- The exchange of a round. -/
def exchange (number started : Nat) : Talk (Except Fault Unit) :=
  let size := p.messageSize.toNat
  match p.transport with
  | .tcp =>
    let limit := Span.ofMillis Limits.tcpRoundMillis
    outcomeOf limit <$> Talk.streamRound (filled size messageFiller) (started + limit.nanos)
  | .udp => Talk.datagramRound server (Message.ofRound size number)

/-- What is reported of a round that fails. -/
def mishap (number : Nat) (fault : Fault) : Event :=
  match p.transport with
  | .tcp => .cutShort .tcpLatency fault
  | .udp => .roundLost .udpLatency number fault

/-- A round, unless the time is up, and what follows it. -/
def play {α : Type} (number : Nat) (late : Run α) (next : Round → Run α) : Run α := do
  let now ← Run.clock
  if deadline ≤ now then late
  else
    let started ← Run.clock
    match ← Run.talk (p.exchange server number started) with
    | .ok () =>
      let ended ← Run.clock
      next ⟨now, .ok (microsBetween started ended)⟩
    | .error fault =>
      Run.report (p.mishap number fault)
      next ⟨now, .error fault⟩

/-- What the rounds have brought. -/
def tally (made : List Round) : Rounds where
  samples := (Round.times made).toArray
  lost :=
    match p.transport with
    | .tcp => 0
    | .udp => Round.losses made

/-- Whether there is room for a sample, and a number for a datagram. -/
def HasRoom (made : List Round) : Prop :=
  (Round.times made).length < p.maxSamples.toNat ∧ (p.transport = .udp → made.length < patience)

instance (made : List Round) : Decidable (p.HasRoom made) := inferInstanceAs (Decidable (_ ∧ _))

/-- Whether rounds go on after a round. -/
def GoesOn (r : Round) : Prop := p.transport = .tcp → r.failed = false

instance (r : Round) : Decidable (p.GoesOn r) := inferInstanceAs (Decidable (_ → _))

/-- The loop of the transport, after some rounds. -/
def roundsAfter (made : List Round) : Run Rounds :=
  let size := p.messageSize.toNat
  let cap := p.maxSamples.toNat
  match p.transport with
  | .tcp =>
    Run.streamRounds (filled size messageFiller) deadline (cap - (Round.times made).length)
      (p.tally made)
  | .udp =>
    Run.datagramRounds server size cap deadline (patience - made.length) (made.length + 1)
      (p.tally made)

end Definitions

variable {p : LatencyProbe} {server : Address} {deadline : Nat} {made : List Round}

theorem tally_echoed (p : LatencyProbe) (made : List Round) (now : Nat) (us : Binary64) :
    p.tally (made ++ [⟨now, .ok us⟩]) = (p.tally made).echoed us := by
  simp [tally, Rounds.echoed, Round.times_concat, Round.losses_concat, Round.failed, Round.time?,
    Except.toOption]

theorem tally_missed (hudp : p.transport = .udp) (made : List Round) (now : Nat) (fault : Fault) :
    p.tally (made ++ [⟨now, .error fault⟩]) = (p.tally made).missed := by
  simp [tally, hudp, Rounds.missed, Round.times_concat, Round.losses_concat, Round.failed,
    Round.time?, Except.toOption]

theorem tally_broken (htcp : p.transport = .tcp) (made : List Round) (now : Nat) (fault : Fault) :
    p.tally (made ++ [⟨now, .error fault⟩]) = p.tally made := by
  simp [tally, htcp, Round.times_concat, Round.time?, Except.toOption]

theorem talk_map {α β : Type} (f : α → β) (t : Talk α) : Run.talk (f <$> t) = f <$> Run.talk t :=
  Dialogue.embed_bind _ _ _

theorem size_tally (p : LatencyProbe) (made : List Round) :
    (p.tally made).samples.size = (Round.times made).length :=
  List.size_toArray

theorem hasRoom_tcp (htcp : p.transport = .tcp) (made : List Round) :
    p.HasRoom made ↔ (Round.times made).length < p.maxSamples.toNat :=
  ⟨fun h => h.1, fun h => ⟨h, by simp [htcp]⟩⟩

theorem hasRoom_udp (hudp : p.transport = .udp) (made : List Round) :
    p.HasRoom made ↔ (Round.times made).length < p.maxSamples.toNat ∧ made.length < patience :=
  ⟨fun h => ⟨h.1, h.2 hudp⟩, fun h => ⟨h.1, fun _ => h.2⟩⟩

theorem goesOn_echoed (p : LatencyProbe) (now : Nat) (us : Binary64) :
    p.GoesOn ⟨now, .ok us⟩ := fun _ => rfl

theorem goesOn_of_udp (hudp : p.transport = .udp) (r : Round) : p.GoesOn r := by
  intro htcp
  rw [hudp] at htcp
  cases htcp

theorem not_goesOn_broken (htcp : p.transport = .tcp) (now : Nat) (fault : Fault) :
    ¬p.GoesOn ⟨now, .error fault⟩ := fun h => Bool.noConfusion (h htcp)

/-- What looks at the clock as a round does, and makes the same of its exchange, is that round. -/
theorem eq_play {α β : Type} {number : Nat} {late : Run α} {next : Round → Run α}
    {exchange : Nat → Run β} {finish : Nat → β → Run α}
    (h : ∀ now started, (exchange started >>= finish started) =
      Run.talk (p.exchange server number started) >>= fun
        | .ok () => Run.clock >>= fun ended => next ⟨now, .ok (microsBetween started ended)⟩
        | .error fault =>
          Run.report (p.mishap number fault) >>= fun _ => next ⟨now, .error fault⟩) :
    (Run.clock >>= fun now =>
      if deadline ≤ now then late
      else Run.clock >>= fun started => exchange started >>= finish started) =
      p.play server deadline number late next := by
  rw [play]
  refine congrArg (Run.clock >>= ·) (funext fun now => ?_)
  by_cases hlate : deadline ≤ now
  · rw [if_pos hlate, if_pos hlate]
  · rw [if_neg hlate, if_neg hlate]
    exact congrArg (Run.clock >>= ·) (funext (h now))

/-- Over a stream, a turn is a round after which a failure is the end. -/
theorem streamRounds_succ (htcp : p.transport = .tcp) (server : Address) (made : List Round)
    (number room : Nat) :
    Run.streamRounds (filled p.messageSize.toNat messageFiller) deadline (room + 1)
        (p.tally made) =
      p.play server deadline number (pure (p.tally made)) fun r =>
        if p.GoesOn r then
          Run.streamRounds (filled p.messageSize.toNat messageFiller) deadline room
            (p.tally (made ++ [r]))
        else pure (p.tally (made ++ [r])) := by
  rw [Run.streamRounds]
  refine eq_play fun now started => ?_
  simp only [exchange, mishap, htcp, talk_map, bind_map_left]
  refine congrArg (_ >>= ·) (funext fun outcome => ?_)
  cases outcome with
  | ready echo => simp only [outcomeOf, tally_echoed, goesOn_echoed, if_true]
  | failed cause => simp only [outcomeOf, tally_broken htcp, not_goesOn_broken htcp, if_false]
  | expired => simp only [outcomeOf, tally_broken htcp, not_goesOn_broken htcp, if_false]

/-- With datagrams, a turn is a round unless there are enough samples. -/
theorem datagramRounds_succ (hudp : p.transport = .udp) (made : List Round) (number turns : Nat) :
    Run.datagramRounds server p.messageSize.toNat p.maxSamples.toNat deadline (turns + 1) number
        (p.tally made) =
      if p.maxSamples.toNat ≤ (Round.times made).length then pure (p.tally made)
      else
        p.play server deadline number (pure (p.tally made)) fun r =>
          Run.datagramRounds server p.messageSize.toNat p.maxSamples.toNat deadline turns
            (number + 1) (p.tally (made ++ [r])) := by
  rw [Run.datagramRounds, size_tally]
  by_cases hfull : p.maxSamples.toNat ≤ (Round.times made).length
  · rw [if_pos hfull, if_pos hfull]
  · rw [if_neg hfull, if_neg hfull]
    refine eq_play fun now started => ?_
    simp only [exchange, mishap, hudp]
    refine congrArg (_ >>= ·) (funext fun outcome => ?_)
    cases outcome with
    | ok => simp only [tally_echoed]
    | error fault => simp only [tally_missed hudp]

theorem roundsAfter_tcp (htcp : p.transport = .tcp) (server : Address) (made : List Round) :
    p.roundsAfter server deadline made =
      Run.streamRounds (filled p.messageSize.toNat messageFiller) deadline
        (p.maxSamples.toNat - (Round.times made).length) (p.tally made) := by
  simp only [roundsAfter, htcp]

theorem roundsAfter_udp (hudp : p.transport = .udp) (server : Address) (made : List Round) :
    p.roundsAfter server deadline made =
      Run.datagramRounds server p.messageSize.toNat p.maxSamples.toNat deadline
        (patience - made.length) (made.length + 1) (p.tally made) := by
  simp only [roundsAfter, hudp]

/-- Both loops make a round if there is room, and go on after it unless it has failed over a
stream. -/
theorem roundsAfter_eq (p : LatencyProbe) (server : Address) (deadline : Nat)
    (made : List Round) :
    p.roundsAfter server deadline made =
      if p.HasRoom made then
        p.play server deadline (made.length + 1) (pure (p.tally made)) fun r =>
          if p.GoesOn r then p.roundsAfter server deadline (made ++ [r])
          else pure (p.tally (made ++ [r]))
      else pure (p.tally made) := by
  cases ht : p.transport with
  | tcp =>
    simp only [roundsAfter_tcp ht, hasRoom_tcp ht]
    by_cases hroom : (Round.times made).length < p.maxSamples.toNat
    · obtain ⟨room, hleft⟩ := Nat.exists_eq_add_of_lt hroom
      have hturns : p.maxSamples.toNat - (Round.times made).length = room + 1 := by omega
      rw [if_pos hroom, hturns, streamRounds_succ ht server made (made.length + 1) room]
      refine congrArg _ (funext fun r => ?_)
      by_cases hgoes : p.GoesOn r
      · have hless : p.maxSamples.toNat - (Round.times (made ++ [r])).length = room := by
          rw [Round.length_times_concat (hgoes ht)]
          omega
        rw [if_pos hgoes, if_pos hgoes, hless]
      · rw [if_neg hgoes, if_neg hgoes]
    · rw [if_neg hroom, Nat.sub_eq_zero_of_le (Nat.le_of_not_lt hroom), Run.streamRounds]
  | udp =>
    simp only [roundsAfter_udp ht, hasRoom_udp ht, goesOn_of_udp ht, if_true]
    by_cases hpatient : made.length < patience
    · obtain ⟨turns, hleft⟩ := Nat.exists_eq_add_of_lt hpatient
      have hturns : patience - made.length = turns + 1 := by omega
      rw [hturns, datagramRounds_succ ht made]
      by_cases hroom : (Round.times made).length < p.maxSamples.toNat
      · rw [if_neg (Nat.not_le.2 hroom), if_pos ⟨hroom, hpatient⟩]
        refine congrArg _ (funext fun r => ?_)
        have hless : patience - (made ++ [r]).length = turns := by
          rw [List.length_append, List.length_singleton]
          omega
        rw [hless, List.length_append, List.length_singleton]
      · rw [if_pos (Nat.le_of_not_lt hroom), if_neg fun h => hroom h.1]
    · rw [if_neg fun h => hpatient h.2, Nat.sub_eq_zero_of_le (Nat.le_of_not_lt hpatient),
        Run.datagramRounds]

section World

variable {W : Type} (answers : Answers W Request.Answer)

/-- A round in a world, with its reading of the clock before the deadline. -/
inductive Plays (p : LatencyProbe) (server : Address) (deadline number : Nat) :
    W → Round → W → Prop where
  | echoed {w w₁ w₂ w₃ w₄ : W} {now started ended : Nat}
      (look : Run.clock.Yields answers w now w₁) (early : now < deadline)
      (start : Run.clock.Yields answers w₁ started w₂)
      (exchange : (Run.talk (p.exchange server number started)).Yields answers w₂ (.ok ()) w₃)
      (finish : Run.clock.Yields answers w₃ ended w₄) :
      Plays p server deadline number w ⟨now, .ok (microsBetween started ended)⟩ w₄
  | failed {w w₁ w₂ w₃ w₄ : W} {now started : Nat} {fault : Fault}
      (look : Run.clock.Yields answers w now w₁) (early : now < deadline)
      (start : Run.clock.Yields answers w₁ started w₂)
      (exchange : (Run.talk (p.exchange server number started)).Yields answers w₂ (.error fault) w₃)
      (reported : (Run.report (p.mishap number fault)).Yields answers w₃ () w₄) :
      Plays p server deadline number w ⟨now, .error fault⟩ w₄

/-- Rounds that are made after others, one after the other, and why there are no more. -/
inductive Made (p : LatencyProbe) (server : Address) (deadline : Nat) :
    List Round → W → List Round → Ending → W → Prop where
  | full {before : List Round} {w : W}
      (enough : p.maxSamples.toNat ≤ (Round.times before).length) :
      Made p server deadline before w [] .full w
  | worn {before : List Round} {w : W} (udp : p.transport = .udp)
      (below : (Round.times before).length < p.maxSamples.toNat)
      (many : patience ≤ before.length) :
      Made p server deadline before w [] .worn w
  | late {before : List Round} {w w₁ : W} {now : Nat} (room : p.HasRoom before)
      (look : Run.clock.Yields answers w now w₁) (tooLate : deadline ≤ now) :
      Made p server deadline before w [] (.late now) w₁
  | last {before : List Round} {w w₁ : W} {r : Round} (room : p.HasRoom before)
      (plays : Plays answers p server deadline (before.length + 1) w r w₁)
      (ends : ¬p.GoesOn r) :
      Made p server deadline before w [r] .broken w₁
  | next {before made : List Round} {w w₁ w₂ : W} {r : Round} {ending : Ending}
      (room : p.HasRoom before)
      (plays : Plays answers p server deadline (before.length + 1) w r w₁) (goesOn : p.GoesOn r)
      (rest : Made p server deadline (before ++ [r]) w₁ made ending w₂) :
      Made p server deadline before w (r :: made) ending w₂

variable {answers} {w w' : W} {before : List Round} {ending : Ending} {rounds : Rounds}

theorem yields_play {α : Type} {number : Nat} {late : Run α} {next : Round → Run α} {a : α} :
    (p.play server deadline number late next).Yields answers w a w' ↔
      (∃ now w₁, Run.clock.Yields answers w now w₁ ∧ deadline ≤ now ∧ late.Yields answers w₁ a w') ∨
        ∃ r w₁, Plays answers p server deadline number w r w₁ ∧
          (next r).Yields answers w₁ a w' := by
  rw [play, Dialogue.yields_bind]
  constructor
  · rintro ⟨now, w₁, look, h⟩
    by_cases hlate : deadline ≤ now
    · rw [if_pos hlate] at h
      exact .inl ⟨now, w₁, look, hlate, h⟩
    · rw [if_neg hlate, Dialogue.yields_bind] at h
      obtain ⟨started, w₂, start, h⟩ := h
      obtain ⟨outcome, w₃, exchange, h⟩ := Dialogue.yields_bind.1 h
      have early := Nat.lt_of_not_le hlate
      cases outcome with
      | ok =>
        obtain ⟨ended, w₄, finish, h⟩ := Dialogue.yields_bind.1 h
        exact .inr ⟨_, w₄, .echoed look early start exchange finish, h⟩
      | error fault =>
        obtain ⟨⟨⟩, w₄, reported, h⟩ := Dialogue.yields_bind.1 h
        exact .inr ⟨_, w₄, .failed look early start exchange reported, h⟩
  · rintro (⟨now, w₁, look, hlate, h⟩ | ⟨r, w₁, plays, h⟩)
    · exact ⟨now, w₁, look, by rwa [if_pos hlate]⟩
    · cases plays with
      | echoed look early start exchange finish =>
        refine ⟨_, _, look, ?_⟩
        rw [if_neg (Nat.not_le.2 early)]
        refine Dialogue.yields_bind.2 ⟨_, _, start, ?_⟩
        refine Dialogue.yields_bind.2 ⟨_, _, exchange, ?_⟩
        exact Dialogue.yields_bind.2 ⟨_, _, finish, h⟩
      | failed look early start exchange reported =>
        refine ⟨_, _, look, ?_⟩
        rw [if_neg (Nat.not_le.2 early)]
        refine Dialogue.yields_bind.2 ⟨_, _, start, ?_⟩
        refine Dialogue.yields_bind.2 ⟨_, _, exchange, ?_⟩
        exact Dialogue.yields_bind.2 ⟨(), _, reported, h⟩

/-- Rounds go on to one of which there can only be so many. -/
def outlook (p : LatencyProbe) (made : List Round) : Nat :=
  (p.maxSamples.toNat - (Round.times made).length) + (patience - made.length)

theorem outlook_lt {r : Round} (room : p.HasRoom made) (goesOn : p.GoesOn r) :
    p.outlook (made ++ [r]) < p.outlook made := by
  have hgrows : (Round.times made).length ≤ (Round.times (made ++ [r])).length := by
    rw [Round.times_concat, List.length_append]
    exact Nat.le_add_right _ _
  have hbelow := room.1
  rw [outlook, outlook, List.length_append, List.length_singleton]
  cases ht : p.transport with
  | tcp =>
    rw [Round.length_times_concat (goesOn ht)]
    omega
  | udp =>
    have hpatient := room.2 ht
    omega

/-- The rounds of a loop are made. -/
theorem made_of_yields (h : (p.roundsAfter server deadline before).Yields answers w rounds w') :
    ∃ made ending, Made answers p server deadline before w made ending w' ∧
      rounds = p.tally (before ++ made) := by
  -- The induction is on how many turns can be left.
  induction hn : p.outlook before using Nat.strongRecOn generalizing before w with
  | _ n ih =>
    subst hn
    rw [roundsAfter_eq] at h
    by_cases room : p.HasRoom before
    · rw [if_pos room] at h
      obtain ⟨now, w₁, look, tooLate, h⟩ | ⟨r, w₁, plays, h⟩ := yields_play.1 h
      · obtain ⟨rfl, rfl⟩ := Dialogue.yields_done.1 h
        exact ⟨[], _, .late room look tooLate, by rw [List.append_nil]⟩
      · by_cases goesOn : p.GoesOn r
        · rw [if_pos goesOn] at h
          obtain ⟨made, ending, rest, hrounds⟩ := ih _ (outlook_lt room goesOn) h rfl
          refine ⟨r :: made, ending, .next room plays goesOn rest, ?_⟩
          rw [hrounds, List.append_assoc, List.singleton_append]
        · rw [if_neg goesOn] at h
          obtain ⟨rfl, rfl⟩ := Dialogue.yields_done.1 h
          exact ⟨[r], _, .last room plays goesOn, rfl⟩
    · rw [if_neg room] at h
      obtain ⟨rfl, rfl⟩ := Dialogue.yields_done.1 h
      by_cases below : (Round.times before).length < p.maxSamples.toNat
      · have hmany : ¬(p.transport = .udp → before.length < patience) := fun h => room ⟨below, h⟩
        obtain ⟨udp, many⟩ := Classical.not_imp.1 hmany
        exact ⟨[], _, .worn udp below (Nat.le_of_not_lt many), by rw [List.append_nil]⟩
      · exact ⟨[], _, .full (Nat.le_of_not_lt below), by rw [List.append_nil]⟩

/-- Rounds that are made are those of a loop. -/
theorem Made.yields (h : Made answers p server deadline before w made ending w') :
    (p.roundsAfter server deadline before).Yields answers w (p.tally (before ++ made)) w' := by
  induction h with
  | @full before w enough =>
    rw [roundsAfter_eq, if_neg fun room => Nat.not_lt.2 enough room.1, List.append_nil]
    exact .done _ _
  | @worn before w udp below many =>
    rw [roundsAfter_eq, if_neg fun room => Nat.not_lt.2 many (room.2 udp), List.append_nil]
    exact .done _ _
  | @late before w w₁ now room look tooLate =>
    rw [roundsAfter_eq, if_pos room, List.append_nil]
    exact yields_play.2 (.inl ⟨now, w₁, look, tooLate, .done _ _⟩)
  | @last before w w₁ r room plays ends =>
    rw [roundsAfter_eq, if_pos room]
    refine yields_play.2 (.inr ⟨r, w₁, plays, ?_⟩)
    rw [if_neg ends]
    exact .done _ _
  | @next before made w w₁ w₂ r ending room plays goesOn rest ih =>
    rw [roundsAfter_eq, if_pos room, List.append_cons]
    refine yields_play.2 (.inr ⟨r, w₁, plays, ?_⟩)
    rwa [if_pos goesOn]

theorem rounds_eq (p : LatencyProbe) (budget : Span) (server : Address) :
    p.rounds budget server =
      Run.deadlineAfter budget >>= fun deadline => p.roundsAfter server deadline [] := by
  rw [rounds]
  refine congrArg (_ >>= ·) (funext fun deadline => ?_)
  cases ht : p.transport with
  | tcp => simp only [roundsAfter_tcp ht, tally, ht]; rfl
  | udp => simp only [roundsAfter_udp ht, tally, ht]; rfl

/-- **A measurement yields what the rounds that are made up to its deadline bring**, and every way
in which rounds can be made is one in which it can go. -/
theorem yields_rounds {budget : Span} :
    (p.rounds budget server).Yields answers w rounds w' ↔
      ∃ deadline w₁ made ending, (Run.deadlineAfter budget).Yields answers w deadline w₁ ∧
        Made answers p server deadline [] w₁ made ending w' ∧ rounds = p.tally made := by
  rw [rounds_eq, Dialogue.yields_bind]
  constructor
  · rintro ⟨deadline, w₁, opened, h⟩
    obtain ⟨made, ending, hmade, hrounds⟩ := made_of_yields h
    exact ⟨deadline, w₁, made, ending, opened, hmade, hrounds⟩
  · rintro ⟨deadline, w₁, made, ending, opened, hmade, rfl⟩
    exact ⟨deadline, w₁, opened, hmade.yields⟩

/-- What a probe reports is the result of its rounds, unless they could not be set up. -/
theorem rounds_of_measure {budget : Span} {result : LatencyResult}
    (h : (p.measure budget).Yields answers w result w') :
    result = .failed ∨ ∃ server rounds w₁ w₂,
      (p.rounds budget server).Yields answers w₁ rounds w₂ ∧ result = rounds.result := by
  obtain ⟨-, w₁, -, h⟩ := Dialogue.yields_bind.1 h
  obtain ⟨outcome, w₂, hattempt, h⟩ := Dialogue.yields_bind.1 h
  cases outcome with
  | error fault =>
    obtain ⟨-, w₃, -, h⟩ := Dialogue.yields_bind.1 h
    exact .inl (Dialogue.yields_done.1 h).1
  | ok reported =>
    obtain ⟨-, w₃, -, h⟩ := Dialogue.yields_bind.1 h
    obtain ⟨rfl, -⟩ := Dialogue.yields_done.1 h
    refine .inr ?_
    obtain ⟨-, w₄, -, h⟩ := Dialogue.yields_attempt_bind.1 hattempt
    obtain ⟨-, w₅, -, h⟩ := Dialogue.yields_attempt_bind.1 h
    obtain ⟨-, w₆, -, h⟩ := Dialogue.yields_attempt_bind.1 h
    obtain ⟨-, w₇, -, h⟩ := Dialogue.yields_attempt_bind.1 h
    obtain ⟨⟨rounds, counted⟩, w₈, htask, h⟩ := Dialogue.yields_attempt_bind.1 h
    obtain ⟨heq, -⟩ := Dialogue.yields_done.1 h
    obtain rfl := Except.ok.inj heq
    obtain ⟨server, w₉, w₁₀, hrounds⟩ := Attempt.measured_of_yields htask
    exact ⟨server, rounds, w₉, w₁₀, hrounds, rfl⟩

end World

end LatencyProbe

end LoopGauge.Engine
