import LoopGauge.Engine.Latency
import LoopGauge.Proofs.Moment

/-!
# The client of rounds over a stream

The rounds of a client by the places that it comes to: what it asks in every place, and to which
place an answer leads. The places are those of the rounds themselves, so whatever is left of the
rounds at some moment is what is left of them in one of the places.

## Main definitions

* `Caller`: where a client is in its rounds.
* `Caller.view`: what it asks there, and where an answer leads.
* `Caller.rest`: what is left of the rounds from there on.

## Main statements

* `Caller.rest_eq`: what is left of the rounds asks what the client asks in its place.
* `Caller.exists_of_turn`: an answer leads from place to place.
-/

namespace LoopGauge.Engine

/-- Where a client is in its rounds; `room` for more samples after the round. -/
inductive Caller where
  | finished (rounds : Rounds)
  /-- Before the look at the clock that decides whether there is another round. -/
  | looking (room : Nat) (rounds : Rounds)
  /-- Before the look at the clock from which the round is timed. -/
  | starting (room : Nat) (rounds : Rounds)
  /-- The first `taken` bytes of the message are written. -/
  | writing (room : Nat) (rounds : Rounds) (started taken : Nat)
  /-- The message is written and `got` has come back. -/
  | reading (room : Nat) (rounds : Rounds) (started : Nat) (got : ByteArray)
  /-- The echo has come; before the look at the clock that ends the round. -/
  | ending (room : Nat) (rounds : Rounds) (started : Nat)
  /-- The round has failed; before the report of it. -/
  | failing (rounds : Rounds) (fault : Fault)

namespace Caller

/-- What the rounds have brought. -/
def rounds : Caller → Rounds
  | finished rounds | looking _ rounds | starting _ rounds | writing _ rounds _ _
  | reading _ rounds _ _ | ending _ rounds _ | failing rounds _ => rounds

/-- The state before a round, if there is room for its sample. -/
def before : Nat → Rounds → Caller
  | 0, rounds => finished rounds
  | room + 1, rounds => looking room rounds

/-- How long a round may take. -/
def limit : Span := Span.ofMillis Limits.tcpRoundMillis

/-- When a round that has started has to be over. -/
def limitAfter (started : Nat) : Nat := started + limit.nanos

/-- What is said of a round whose stream has failed. -/
def broken (cause : String) : Fault := ⟨.transport, cause⟩

variable (message : ByteArray) (deadline : Nat)

/-- What comes of the bytes that have come back. -/
def onGot (room : Nat) (rounds : Rounds) (started : Nat) (got : ByteArray) : Caller :=
  if got.size < message.size then reading room rounds started got else ending room rounds started

/-- What comes of the bytes that are written. -/
def onTaken (room : Nat) (rounds : Rounds) (started taken : Nat) : Caller :=
  if taken < message.size then writing room rounds started taken
  else onGot message room rounds started ByteArray.empty

/-- What comes of a write. -/
def onWrite (room : Nat) (rounds : Rounds) (started taken : Nat) : Timed Nat → Caller
  | .ready 0 => failing rounds (broken "write zero")
  | .ready (more + 1) => onTaken message room rounds started (taken + (more + 1))
  | .failed cause => failing rounds (broken cause)
  | .expired => failing rounds (noEcho limit)

/-- What comes of a read. -/
def onRead (room : Nat) (rounds : Rounds) (started : Nat) (got : ByteArray) :
    Timed ByteArray → Caller
  | .ready more =>
    if 0 < more.size then onGot message room rounds started (got ++ more)
    else failing rounds (broken "early eof")
  | .failed cause => failing rounds (broken cause)
  | .expired => failing rounds (noEcho limit)

/-- A question of the client, and where an answer leads. -/
abbrev View : Type := (q : Request) × (q.Answer → Caller)

/-- A look at the clock. -/
def onClock (next : Nat → Caller) : View := ⟨.host (.wire .clock), next⟩

/-- What the client asks, and where an answer leads. -/
def view : Caller → Option View
  | finished _ => none
  | looking room rounds => some <| onClock fun now =>
      if deadline ≤ now then finished rounds else starting room rounds
  | starting room rounds => some <| onClock fun started => onTaken message room rounds started 0
  | writing room rounds started taken =>
      some ⟨.host (.wire (.write (message.extract taken message.size) (limitAfter started))),
        onWrite message room rounds started taken⟩
  | reading room rounds started got =>
      some ⟨.host (.wire (.read (message.size - got.size) (limitAfter started))),
        onRead message room rounds started got⟩
  | ending room rounds started => some <| onClock fun ended =>
      before room (rounds.echoed (microsBetween started ended))
  | failing rounds fault =>
      some ⟨.report (.cutShort .tcpLatency fault), fun _ => finished rounds⟩

/-- What is left of the rounds when one of them has ended. -/
def settle (room : Nat) (rounds : Rounds) (started : Nat) : Timed ByteArray → Run Rounds
  | .ready _ => do
    let ended ← Run.clock
    Run.streamRounds message deadline room (rounds.echoed (microsBetween started ended))
  | .failed cause => do
    Run.report (.cutShort .tcpLatency (broken cause))
    pure rounds
  | .expired => do
    Run.report (.cutShort .tcpLatency (noEcho limit))
    pure rounds

/-- What is left of a round when its message has been written or not. -/
def reply (started : Nat) : Timed Unit → Talk (Timed ByteArray)
  | .ready () => Talk.readExact message.size (limitAfter started)
  | .failed cause => pure (.failed cause)
  | .expired => pure .expired

/-- What is left of a round when a write has ended. -/
def afterWrite (started taken : Nat) : Timed Nat → Talk (Timed Unit)
  | .ready 0 => pure (.failed "write zero")
  | .ready (more + 1) => Talk.writeFrom message (limitAfter started) (taken + (more + 1))
  | .failed cause => pure (.failed cause)
  | .expired => pure .expired

/-- What is left of a round when a read has ended. -/
def afterRead (started : Nat) (got : ByteArray) : Timed ByteArray → Talk (Timed ByteArray)
  | .ready more =>
    if 0 < more.size then Talk.readUpTo message.size (limitAfter started) (got ++ more)
    else pure (.failed "early eof")
  | .failed cause => pure (.failed cause)
  | .expired => pure .expired

/-- What is left of the rounds. -/
def rest : Caller → Run Rounds
  | finished rounds => pure rounds
  | looking room rounds => do
    if deadline ≤ (← Run.clock) then pure rounds
    else
      let started ← Run.clock
      settle message deadline room rounds started
        (← Run.talk (Talk.streamRound message (limitAfter started)))
  | starting room rounds => do
    let started ← Run.clock
    settle message deadline room rounds started
      (← Run.talk (Talk.streamRound message (limitAfter started)))
  | writing room rounds started taken => do
    let answer ← Run.talk do
      let written ← afterWrite message started taken
        (← Talk.write (message.extract taken message.size) (limitAfter started))
      reply message started written
    settle message deadline room rounds started answer
  | reading room rounds started got => do
    let answer ← Run.talk do
      afterRead message started got
        (← Talk.read (message.size - got.size) (limitAfter started))
    settle message deadline room rounds started answer
  | ending room rounds started => settle message deadline room rounds started (.ready .empty)
  | failing rounds fault => do
    Run.report (.cutShort .tcpLatency fault)
    pure rounds

theorem rest_before (room : Nat) (rounds : Rounds) :
    (before room rounds).rest message deadline =
      Run.streamRounds message deadline room rounds := by
  cases room with
  | zero => rfl
  | succ room =>
    rw [before, Run.streamRounds, rest]
    refine congrArg _ (funext fun now => ?_)
    split
    · rfl
    · refine congrArg _ (funext fun started => ?_)
      refine congrArg _ (funext fun answer => ?_)
      cases answer <;> rfl

theorem rest_onGot (room : Nat) (rounds : Rounds) (started : Nat) (got : ByteArray) :
    (onGot message room rounds started got).rest message deadline =
      Run.talk (Talk.readUpTo message.size (limitAfter started) got) >>=
        settle message deadline room rounds started := by
  rw [onGot, Talk.readUpTo]
  split
  · refine congrArg (Dialogue.ask _) (funext fun answer => ?_)
    cases answer <;> rfl
  · rfl

theorem rest_onTaken (room : Nat) (rounds : Rounds) (started taken : Nat) :
    (onTaken message room rounds started taken).rest message deadline =
      Run.talk (Talk.writeFrom message (limitAfter started) taken >>= reply message started) >>=
        settle message deadline room rounds started := by
  rw [onTaken, Talk.writeFrom]
  split
  · refine congrArg (Dialogue.ask _) (funext fun answer => ?_)
    cases answer with
    | ready count => cases count <;> rfl
    | failed cause => rfl
    | expired => rfl
  · exact rest_onGot message deadline room rounds started ByteArray.empty

/-- What is left of the rounds asks what the client asks in its place, and an answer leaves of them
what is left in the place that it leads to. -/
theorem rest_eq (c : Caller) :
    c.rest message deadline =
      match c.view message deadline with
      | none => .done c.rounds
      | some ⟨q, next⟩ => .ask q fun answer => (next answer).rest message deadline := by
  cases c with
  | finished rounds => rfl
  | looking room rounds =>
    refine congrArg (Dialogue.ask _) (funext fun (now : Nat) => ?_)
    change (if deadline ≤ now then pure rounds else (starting room rounds).rest message deadline) =
      (if deadline ≤ now then finished rounds else starting room rounds).rest message deadline
    split <;> rfl
  | starting room rounds =>
    refine congrArg (Dialogue.ask _) (funext fun (started : Nat) => ?_)
    refine Eq.trans ?_ (rest_onTaken message deadline room rounds started 0).symm
    rfl
  | writing room rounds started taken =>
    refine congrArg (Dialogue.ask _) (funext fun answer => ?_)
    cases answer with
    | ready count =>
      cases count with
      | zero => rfl
      | succ more => exact (rest_onTaken message deadline room rounds started _).symm
    | failed cause => rfl
    | expired => rfl
  | reading room rounds started got =>
    refine congrArg (Dialogue.ask _) (funext fun answer => ?_)
    cases answer with
    | ready more =>
      change Run.talk (if 0 < more.size then _ else _) >>= _ =
        (if 0 < more.size then _ else _ : Caller).rest message deadline
      split
      · exact (rest_onGot message deadline room rounds started _).symm
      · rfl
    | failed cause => rfl
    | expired => rfl
  | ending room rounds started =>
    refine congrArg (Dialogue.ask _) (funext fun ended => ?_)
    exact (rest_before message deadline _ _).symm
  | failing rounds fault => rfl

/-- An answer leads from place to place. -/
theorem exists_of_turn {W : Type} {answers : Answers W Request.Answer} {w w' : W} {c : Caller}
    {left : Run Rounds} (h : Dialogue.Turn answers (c.rest message deadline) w left w') :
    ∃ q next answer, c.view message deadline = some ⟨q, next⟩ ∧ answers w q answer w' ∧
      left = (next answer).rest message deadline := by
  refine Dialogue.exists_of_turn_view (fun c hview => ⟨c.rounds, ?_⟩) (fun c q next hview => ?_) h
  · rw [rest_eq, hview]
  · rw [rest_eq, hview]

end Caller

end LoopGauge.Engine
