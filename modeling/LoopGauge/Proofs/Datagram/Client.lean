import LoopGauge.Engine.Latency

/-!
# The client of rounds with datagrams

The rounds of a client as a machine: in every state it asks one question, and the answer decides
the next state. The machine does what the rounds do, so a statement about its states is one about
the rounds.

## Main definitions

* `Client`: where a client is in its rounds.
* `Client.view`: what it asks there, and where an answer leads.
* `Client.rest`: what is left of the rounds from there on.

## Main statements

* `Client.rest_eq`: what is left of the rounds asks what the machine asks.
* `Client.rest_start`: in the beginning all of the rounds are left.
-/

namespace LoopGauge.Engine

/-- The number of a round, what the rounds before it have brought, and how many turns are left
after it. -/
structure Turn where
  turns : Nat
  round : Nat
  rounds : Rounds

/-- Where a client is in its rounds. -/
inductive Client where
  | finished (rounds : Rounds)
  /-- Before the look at the clock that decides whether there is another round. -/
  | looking (t : Turn)
  /-- Before the look at the clock from which the round is timed. -/
  | starting (t : Turn)
  /-- Before the look at the clock that sets the limit of the round. -/
  | timing (t : Turn) (started : Nat)
  | sending (t : Turn) (started limit : Nat)
  /-- Before the look at the clock that decides whether to wait on; `left` more receptions. -/
  | polling (t : Turn) (started limit left : Nat)
  | awaiting (t : Turn) (started limit left now : Nat)
  /-- The echo has come; before the look at the clock that ends the round. -/
  | echoed (t : Turn) (started : Nat)
  /-- The round is lost; before the report of it. -/
  | losing (t : Turn) (fault : Fault)

namespace Client

/-- What the rounds have brought. -/
def rounds : Client → Rounds
  | finished rounds => rounds
  | looking t | starting t | timing t _ | sending t _ _ | polling t _ _ _ | awaiting t _ _ _ _
  | echoed t _ | losing t _ => t.rounds

/-- The number of the round; zero when they are over. -/
def round : Client → Nat
  | finished _ => 0
  | looking t | starting t | timing t _ | sending t _ _ | polling t _ _ _ | awaiting t _ _ _ _
  | echoed t _ | losing t _ => t.round

variable (server : Address) (size cap deadline : Nat)

/-- The state before a round, if there is room for its sample. -/
def before : (turns round : Nat) → Rounds → Client
  | 0, _, rounds => finished rounds
  | turns + 1, round, rounds =>
    if cap ≤ rounds.samples.size then finished rounds else looking ⟨turns, round, rounds⟩

/-- The state before the first round. -/
def start : Client := before cap patience 1 {}

/-- The state after a round. -/
def next (t : Turn) (rounds : Rounds) : Client := before cap t.turns (t.round + 1) rounds

/-- What comes of the number of bytes that were sent. -/
def onSent (t : Turn) (started limit : Nat) : Except String Nat → Client
  | .error cause => losing t ⟨.transport, "send failed: " ++ cause⟩
  | .ok sent =>
    if sent = size then polling t started limit patience
    else losing t ⟨.transport, "short send: " ++ Number.decimal sent ++ " of " ++
      Number.decimal size ++ " bytes"⟩

/-- What comes of a reception. -/
def onReception (t : Turn) (started limit left now : Nat)
    (reception : Timed (ByteArray × Address)) : Client :=
  match reception.received (Span.ofNanos (limit - now)) with
  | .error fault => losing t fault
  | .ok (data, peer) =>
    if !(Message.ofRound size t.round).concerns server peer data then polling t started limit left
    else if data.size = size then echoed t started
    else losing t ⟨.transport, "short echo: " ++ Number.decimal data.size ++ " of " ++
      Number.decimal size ++ " bytes"⟩

/-- What is said when no echo came in time. -/
def silence : Fault := noEcho (Span.ofMillis Limits.udpRoundMillis)

/-- A question of the client, and where an answer leads. -/
abbrev View : Type := (q : Request) × (q.Answer → Client)

/-- A look at the clock. -/
def onClock (next : Nat → Client) : View := ⟨.host (.wire .clock), next⟩

/-- The report of a lost round. -/
def onLoss (t : Turn) (fault : Fault) : View :=
  ⟨.report (.roundLost .udpLatency t.round fault), fun _ => next cap t t.rounds.missed⟩

/-- What the client asks, and where an answer leads. -/
def view : Client → Option View
  | finished _ => none
  | looking t => some <| onClock fun now =>
      if deadline ≤ now then finished t.rounds else starting t
  | starting t => some <| onClock fun started => timing t started
  | timing t started => some <| onClock fun now =>
      sending t started (now + (Span.ofMillis Limits.udpRoundMillis).nanos)
  | sending t started limit =>
      some ⟨.host (.wire (.send (Message.ofRound size t.round).bytes server)),
        onSent size t started limit⟩
  | polling t _ _ 0 => some (onLoss cap t silence)
  | polling t started limit (left + 1) => some <| onClock fun now =>
      if limit ≤ now then losing t silence else awaiting t started limit left now
  | awaiting t started limit left now =>
      some ⟨.host (.wire (.receive size limit)), onReception server size t started limit left now⟩
  | echoed t started => some <| onClock fun ended =>
      next cap t (t.rounds.echoed (microsBetween started ended))
  | losing t fault => some (onLoss cap t fault)

/-- What is left of the rounds when one of them has ended. -/
def settle (t : Turn) (started : Nat) : Except Fault Unit → Run Rounds
  | .ok () => do
    let ended ← Run.clock
    Run.datagramRounds server size cap deadline t.turns (t.round + 1)
      (t.rounds.echoed (microsBetween started ended))
  | .error fault => do
    Run.report (.roundLost .udpLatency t.round fault)
    Run.datagramRounds server size cap deadline t.turns (t.round + 1) t.rounds.missed

/-- What is left of a round when its datagram is to be sent. -/
def exchange (t : Turn) (limit : Nat) : Talk (Except Fault Unit) := do
  match ← Talk.send (Message.ofRound size t.round).bytes server with
  | .error cause => pure (.error ⟨.transport, "send failed: " ++ cause⟩)
  | .ok sent =>
    if sent = size then Talk.awaitEcho server (Message.ofRound size t.round) limit patience
    else pure (.error ⟨.transport, "short send: " ++ Number.decimal sent ++ " of " ++
      Number.decimal size ++ " bytes"⟩)

/-- What is left of a round when a datagram is to be received. -/
def await (t : Turn) (limit left now : Nat) : Talk (Except Fault Unit) := do
  match (← Talk.receive size limit).received (Span.ofNanos (limit - now)) with
  | .error fault => pure (.error fault)
  | .ok (data, peer) =>
    if !(Message.ofRound size t.round).concerns server peer data then
      Talk.awaitEcho server (Message.ofRound size t.round) limit left
    else if data.size = size then pure (.ok ())
    else pure (.error ⟨.transport, "short echo: " ++ Number.decimal data.size ++ " of " ++
      Number.decimal size ++ " bytes"⟩)

/-- What is left of the rounds. -/
def rest : Client → Run Rounds
  | finished rounds => pure rounds
  | looking t => do
    if deadline ≤ (← Run.clock) then pure t.rounds
    else
      let started ← Run.clock
      settle server size cap deadline t started
        (← Run.talk (Talk.datagramRound server (Message.ofRound size t.round)))
  | starting t => do
    let started ← Run.clock
    settle server size cap deadline t started
      (← Run.talk (Talk.datagramRound server (Message.ofRound size t.round)))
  | timing t started => do
    settle server size cap deadline t started
      (← Run.talk (Talk.datagramRound server (Message.ofRound size t.round)))
  | sending t started limit => do
    settle server size cap deadline t started (← Run.talk (exchange server size t limit))
  | polling t started limit left => do
    settle server size cap deadline t started
      (← Run.talk (Talk.awaitEcho server (Message.ofRound size t.round) limit left))
  | awaiting t started limit left now => do
    settle server size cap deadline t started (← Run.talk (await server size t limit left now))
  | echoed t started => settle server size cap deadline t started (.ok ())
  | losing t fault => settle server size cap deadline t 0 (.error fault)

theorem rest_before (turns round : Nat) (rounds : Rounds) :
    (before cap turns round rounds).rest server size cap deadline =
      Run.datagramRounds server size cap deadline turns round rounds := by
  cases turns with
  | zero => rfl
  | succ turns =>
    rw [before, Run.datagramRounds]
    split
    · rfl
    · rw [rest]
      refine congrArg _ (funext fun now => ?_)
      split
      · rfl
      · refine congrArg _ (funext fun started => ?_)
        refine congrArg _ (funext fun result => ?_)
        cases result <;> rfl

/-- In the beginning all of the rounds are left. -/
theorem rest_start :
    (start cap).rest server size cap deadline =
      Run.datagramRounds server size cap deadline patience 1 {} :=
  rest_before server size cap deadline patience 1 {}

/-- What is left of the rounds asks what the machine asks, and an answer leaves of them what the
machine leaves. -/
theorem rest_eq (c : Client) :
    c.rest server size cap deadline =
      match c.view server size cap deadline with
      | none => .done c.rounds
      | some ⟨q, next⟩ => .ask q fun answer => (next answer).rest server size cap deadline := by
  -- The first question is the same in every state; what it leaves is compared branch by branch.
  cases c with
  | finished rounds => rfl
  | looking t =>
    refine congrArg (Dialogue.ask _) (funext fun (now : Nat) => ?_)
    change (if deadline ≤ now then pure t.rounds else (starting t).rest server size cap deadline) =
      (if deadline ≤ now then finished t.rounds else starting t).rest server size cap deadline
    split <;> rfl
  | starting t => rfl
  | timing t started => rfl
  | sending t started limit =>
    refine congrArg (Dialogue.ask _) (funext fun sent => ?_)
    cases sent with
    | error cause => rfl
    | ok sent =>
      change Run.talk (if sent = size then
          Talk.awaitEcho server (Message.ofRound size t.round) limit patience else _) >>= _ =
        (if sent = size then _ else _ : Client).rest server size cap deadline
      split <;> rfl
  | polling t started limit left =>
    cases left with
    | zero =>
      refine congrArg (Dialogue.ask _) (funext fun _ => ?_)
      exact (rest_before server size cap deadline _ _ _).symm
    | succ left =>
      refine congrArg (Dialogue.ask _) (funext fun (now : Nat) => ?_)
      change Run.talk (if limit ≤ now then _ else await server size t limit left now) >>= _ =
        (if limit ≤ now then _ else _ : Client).rest server size cap deadline
      split <;> rfl
  | awaiting t started limit left now =>
    refine congrArg (Dialogue.ask _) (funext fun reception => ?_)
    cases reception with
    | failed cause => rfl
    | expired => rfl
    | ready arrival =>
      obtain ⟨data, peer⟩ := arrival
      change Run.talk (if !(Message.ofRound size t.round).concerns server peer data then
          Talk.awaitEcho server (Message.ofRound size t.round) limit left
        else if data.size = size then pure (.ok ()) else _) >>= _ =
        (if !(Message.ofRound size t.round).concerns server peer data then _
          else if data.size = size then _ else _ : Client).rest server size cap deadline
      split
      · rfl
      · split <;> rfl
  | echoed t started =>
    refine congrArg (Dialogue.ask _) (funext fun ended => ?_)
    exact (rest_before server size cap deadline _ _ _).symm
  | losing t fault =>
    refine congrArg (Dialogue.ask _) (funext fun _ => ?_)
    exact (rest_before server size cap deadline _ _ _).symm

end Client

end LoopGauge.Engine
