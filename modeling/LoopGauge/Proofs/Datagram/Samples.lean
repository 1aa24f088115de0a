import LoopGauge.Proofs.Datagram.Rounds
import LoopGauge.Proofs.Datagram.Tag

/-!
# Whose echo a round takes

Whatever the network does with datagrams, a round takes the echo of its own message only. All that
the server sends to the client are echoes of messages that the client has sent, whole or shortened,
and among those the tag tells the round. So an echo that comes late is passed over, as is
everything that comes from somebody else, and each sample belongs to a round of its own in which
its echo was received.

## Main definitions

* `Exchange.Carries`: data are the start of a message that the client has sent.
* `Exchange.Faithful`: the invariant of the network.
* `Exchange.Genuine`: client and server are the rounds and the task that the program runs.
* `Exchange.OwnEchoes`: what is received in a round, and what is counted.

## Main statements

* `Exchange.placed_and_faithful`: the invariants hold as long as the tags do not start again.
* `Exchange.samples_of_own_echoes`: every sample is that of an echo of its own round.
-/

namespace LoopGauge.Engine

namespace Exchange

variable {x : Exchange}

/-- Data that the client has sent for a round so far, or the start of it. -/
def Carries (x : Exchange) (sent : Nat) (data : ByteArray) (origin : Origin) : Prop :=
  ∃ k length, 1 ≤ k ∧ k ≤ sent ∧ origin = .message k ∧
    data = (Message.ofRound x.size k).bytes.extract 0 length

theorem Carries.mono {sent sent' : Nat} {data : ByteArray} {origin : Origin}
    (h : x.Carries sent data origin) (hle : sent ≤ sent') : x.Carries sent' data origin := by
  obtain ⟨k, length, hk, hk', horigin, hdata⟩ := h
  exact ⟨k, length, hk, by omega, horigin, hdata⟩

theorem Carries.extract {sent : Nat} {data : ByteArray} {origin : Origin}
    (h : x.Carries sent data origin) (length : Nat) :
    x.Carries sent (data.extract 0 length) origin := by
  obtain ⟨k, length', hk, hk', horigin, rfl⟩ := h
  refine ⟨k, min length length', hk, hk', horigin, ?_⟩
  rw [ByteArray.extract_extract, Nat.zero_add, Nat.zero_add]

/-- What the client sends carries its message. -/
theorem carries_bytes (sent : Nat) :
    x.Carries (sent + 1) (Message.ofRound x.size (sent + 1)).bytes (.message (sent + 1)) := by
  refine ⟨sent + 1, _, by omega, Nat.le_refl _, rfl, ByteArray.extract_zero_size.symm⟩

/-- What client and server have sent to each other. -/
structure Faithful (x : Exchange) (n : Net) : Prop where
  messages : ∀ d ∈ n.air, d.source = x.client → x.Carries n.sent d.data d.origin
  echoes : ∀ d ∈ n.air, d.source = x.server → d.target = x.client →
    ∃ answered, d.origin = .echo answered ∧ x.Carries n.sent d.data answered
  reply : ∀ turns data, n.server = .replying turns data x.client →
    x.Carries n.sent data n.answering

section Server

variable {e : Echo}

/-- The server has nothing to send before a turn. -/
theorem before_ne_replying (turns turns' : Nat) (data : ByteArray) (peer : Address) :
    Echo.before turns ≠ .replying turns' data peer := by
  cases turns with
  | zero => exact Echo.noConfusion
  | succ turns => exact Echo.noConfusion

theorem receiving_of_receives {size limit : Nat}
    {next : (Duty.wire (.receive size limit)).Answer → Echo}
    (asks : x.serverView e = some ⟨.wire (.receive size limit), next⟩) :
    ∃ turns, e = .receiving turns limit ∧ next = Echo.onReception turns := by
  cases e with
  | receiving turns limit =>
    cases asks
    exact ⟨turns, rfl, rfl⟩
  | finished => cases asks
  | idle turns => cases asks
  | timing turns => cases asks
  | replying turns data peer => cases asks

theorem replying_of_sends {data : ByteArray} {peer : Address}
    {next : (Duty.wire (.send data peer)).Answer → Echo}
    (asks : x.serverView e = some ⟨.wire (.send data peer), next⟩) :
    ∃ turns, e = .replying turns data peer ∧ next = fun _ => Echo.before turns := by
  cases e with
  | replying turns data peer =>
    cases asks
    exact ⟨turns, rfl, rfl⟩
  | finished => cases asks
  | idle turns => cases asks
  | timing turns => cases asks
  | receiving turns limit => cases asks

/-- Nothing makes the server send but a reception. -/
theorem ne_replying_of_keeps {q : Duty} {next : q.Answer → Echo}
    (asks : x.serverView e = some ⟨q, next⟩) (keeps : serverKeeps q) (answer : q.Answer)
    (turns : Nat) (data : ByteArray) (peer : Address) :
    next answer ≠ .replying turns data peer := by
  cases e with
  | finished => cases asks
  | idle turns' =>
    cases asks
    dsimp only
    split <;> exact Echo.noConfusion
  | timing turns' =>
    cases asks
    exact Echo.noConfusion
  | receiving turns' limit =>
    cases asks
    cases keeps
  | replying turns' data' peer' =>
    cases asks
    cases keeps

end Server

section Round

variable {n n' : Net} {d : Datagram} {t : Turn}

/-- What a round makes of a datagram. -/
inductive Reaction (x : Exchange) (d : Datagram) (t : Turn) (started limit left : Nat) :
    Client → Prop where
  | own (echo : x.IsEcho d t.round) : Reaction x d t started limit left (.echoed t started)
  | short (fault : Fault) (source : d.source = x.server)
      (origin : d.origin = .echo (.message t.round)) (length : d.data.size ≠ x.size) :
      Reaction x d t started limit left (.losing t fault)
  | other (foreign : ¬x.IsEcho d t.round)
      (untagged : d.source = x.server → ¬(Message.ofRound x.size t.round).matchesTag d.data) :
      Reaction x d t started limit left (.polling t started limit left)

/-- What comes from the server is told by its tag and its length, what comes from elsewhere by its
source. -/
theorem reaction_onReception (hsize : tagLength ≤ x.size) (hfaithful : x.Faithful n)
    (hrounds : n.sent ≤ 2 ^ 32) (hd : d ∈ n.air) (haddressed : d.target = x.client)
    (hround : t.round = n.sent) (started limit left now : Nat) :
    x.Reaction d t started limit left
      (Client.onReception x.server x.size t started limit left now (arrival d x.size)) := by
  by_cases hsource : d.source = x.server
  · obtain ⟨_, horigin, k, length, hk, hk', rfl, hdata⟩ := hfaithful.echoes d hd hsource haddressed
    have hlength : d.data.size = min length x.size := by
      rw [hdata, ByteArray.size_extract, Message.size_bytes, Nat.sub_zero]
    -- The server sends nothing that is longer than a message, so nothing is cut off.
    have hwhole : d.data.extract 0 x.size = d.data := by
      have hmax : x.size = max x.size d.data.size := by omega
      rw [hmax]
      exact ByteArray.extract_zero_max_size
    rw [arrival, hwhole, hsource]
    by_cases htag : (Message.ofRound x.size t.round).matchesTag d.data
    · have hown : k = t.round := by
        rw [hdata, Message.matchesTag_extract_iff hsize] at htag
        exact tagOf_injective hk (by omega) (by omega) (by omega) htag.2
      subst hown
      -- The start of the message of this very round: all of it, or too little.
      rw [Client.onReception_of_matchesTag htag]
      split
      · rename_i hfull
        exact .own ⟨hsource, hfull, horigin⟩
      · rename_i hshort
        exact .short _ hsource horigin hshort
    -- A whole message would have its tag, so without the tag it is not the echo of this round.
    · rw [Client.onReception_of_tag htag]
      refine .other (fun hecho => htag ?_) fun _ => htag
      have hown : k = t.round := by
        have hsame := horigin.symm.trans hecho.origin
        simpa using hsame
      have hfull := hecho.length
      rw [hdata, Message.matchesTag_extract_iff hsize]
      exact ⟨by omega, congrArg tagOf hown⟩
  · rw [arrival, Client.onReception_of_ne hsource]
    exact .other (fun hecho => hsource hecho.source) fun h => absurd h hsource

/-- The client receives in a round that awaits its echo, and the round reacts. -/
theorem Hears.reaction (hsize : tagLength ≤ x.size) (hplaced : x.Placed n.client n.sent n.heard)
    (hfaithful : x.Faithful n) (hrounds : n.sent ≤ 2 ^ 32) (h : x.Hears n d n') :
    ∃ t started limit left now, n.client = .awaiting t started limit left now ∧
      x.Reaction d t started limit left n'.client ∧ n'.heard = (t.round, d) :: n.heard ∧
      n'.sent = n.sent := by
  obtain ⟨asks, hd, haddressed⟩ := h
  obtain ⟨t, started, left, now, hclient, rfl, rfl⟩ := awaiting_of_receives asks
  have hround : t.round = n.sent := by
    have hplace := hplaced.place
    rw [hclient] at hplace
    exact hplace.1
  refine ⟨t, started, _, left, now, hclient, ?_, ?_, rfl⟩
  · exact reaction_onReception hsize hfaithful hrounds hd haddressed hround started _ left now
  · rw [hclient]
    rfl

/-- A round that has reacted is still in its place. -/
theorem Placed.react {started limit left now sent : Nat} {heard : List (Nat × Datagram)}
    {c : Client}
    (h : x.Placed (.awaiting t started limit left now) sent heard)
    (hreaction : x.Reaction d t started limit left c) :
    x.Placed c sent ((t.round, d) :: heard) := by
  cases hreaction with
  | own echo => exact h.echo echo
  | short fault source origin length => exact h.lose d fault
  | other foreign untagged => exact h.pass d

end Round

section Step

variable {n n' : Net}

/-- A step never takes back what was sent. -/
theorem sent_le_of_step (h : x.Step n n') : n.sent ≤ n'.sent := by
  cases h with
  | clientSends answer asks => exact Nat.le_succ _
  | clientHears hears =>
    cases hears
    exact Nat.le_refl _
  | _ => exact Nat.le_refl _

/-- A step keeps the invariant of the client. -/
theorem Placed.step (hsize : tagLength ≤ x.size) (hplaced : x.Placed n.client n.sent n.heard)
    (hfaithful : x.Faithful n) (hrounds : n.sent ≤ 2 ^ 32) (h : x.Step n n') :
    x.Placed n'.client n'.sent n'.heard := by
  cases h with
  | clientAsks answer asks keeps => exact hplaced.ask asks keeps answer
  | clientSends answer asks => exact (hplaced.send asks answer).1
  | clientHears hears =>
    obtain ⟨t, started, limit, left, now, hclient, hreaction, hheard, hsent⟩ :=
      hears.reaction hsize hplaced hfaithful hrounds
    rw [hclient] at hplaced
    rw [hheard, hsent]
    exact hplaced.react hreaction
  | clientWaits reception asks vain => exact hplaced.wait asks vain
  | serverAsks | serverSends | serverHears | serverWaits | strangerSends | shortens => exact hplaced

/-- A step keeps the invariant of the network. -/
theorem Faithful.step (hfaithful : x.Faithful n) (hplaced : x.Placed n.client n.sent n.heard)
    (h : x.Step n n') : x.Faithful n' := by
  obtain ⟨hmessages, hechoes, hreply⟩ := hfaithful
  cases h with
  | clientAsks answer asks keeps => exact ⟨hmessages, hechoes, hreply⟩
  | clientSends answer asks =>
    -- That the message is numbered like the round is what the invariant of the client is for.
    obtain ⟨-, hround, rfl, rfl⟩ := hplaced.send asks answer
    refine ⟨List.forall_mem_cons.2 ⟨fun _ => ?_, ?_⟩, List.forall_mem_cons.2 ⟨?_, ?_⟩, ?_⟩
    · rw [hround]
      exact carries_bytes n.sent
    · exact fun d hd hsource => (hmessages d hd hsource).mono (Nat.le_succ _)
    · exact fun hsource => absurd hsource x.distinct
    · intro d hd hsource htarget
      obtain ⟨answered, horigin, hcarries⟩ := hechoes d hd hsource htarget
      exact ⟨answered, horigin, hcarries.mono (Nat.le_succ _)⟩
    · exact fun turns data hserver => (hreply turns data hserver).mono (Nat.le_succ _)
  | clientHears hears =>
    cases hears
    exact ⟨hmessages, hechoes, hreply⟩
  | clientWaits reception asks vain => exact ⟨hmessages, hechoes, hreply⟩
  | serverAsks answer asks keeps =>
    refine ⟨hmessages, hechoes, fun turns data hserver => ?_⟩
    exact absurd hserver (ne_replying_of_keeps asks keeps answer turns data x.client)
  | serverSends answer asks =>
    obtain ⟨turns, hserver, rfl⟩ := replying_of_sends asks
    refine ⟨List.forall_mem_cons.2 ⟨?_, hmessages⟩, List.forall_mem_cons.2 ⟨?_, hechoes⟩, ?_⟩
    · exact fun hsource => absurd hsource.symm x.distinct
    -- What goes to the client is what the client has sent, since replies go back to the source.
    · rintro - rfl
      exact ⟨n.answering, rfl, hreply turns _ hserver⟩
    · exact fun turns' data h => absurd h (before_ne_replying turns turns' data x.client)
  | @serverHears d size limit next asks sent addressed =>
    obtain ⟨turns, hserver, rfl⟩ := receiving_of_receives asks
    refine ⟨hmessages, hechoes, fun turns' data hreplying => ?_⟩
    have hsame : Echo.replying turns (d.data.extract 0 size) d.source =
      .replying turns' data x.client := hreplying
    obtain ⟨-, rfl, hsource⟩ := Echo.replying.inj hsame
    exact (hmessages d sent hsource).extract size
  | serverWaits reception asks vain =>
    obtain ⟨turns, hserver, rfl⟩ := receiving_of_receives asks
    refine ⟨hmessages, hechoes, fun turns' data hreplying => ?_⟩
    cases reception with
    | ready arrival => cases vain
    | failed cause => exact absurd hreplying (before_ne_replying turns turns' data x.client)
    | expired => exact absurd hreplying (before_ne_replying turns turns' data x.client)
  | strangerSends source target data notClient notServer =>
    refine ⟨List.forall_mem_cons.2 ⟨?_, hmessages⟩, List.forall_mem_cons.2 ⟨?_, hechoes⟩, hreply⟩
    · exact fun hsource => absurd hsource notClient
    · exact fun hsource => absurd hsource notServer
  | shortens length sent =>
    refine ⟨List.forall_mem_cons.2 ⟨?_, hmessages⟩, List.forall_mem_cons.2 ⟨?_, hechoes⟩, hreply⟩
    · exact fun hsource => (hmessages _ sent hsource).extract length
    · intro hsource htarget
      obtain ⟨answered, horigin, hcarries⟩ := hechoes _ sent hsource htarget
      exact ⟨answered, horigin, hcarries.extract length⟩

/-- As long as the tags do not start again, both invariants hold. -/
theorem placed_and_faithful (hsize : tagLength ≤ x.size) (h : x.Reachable n)
    (hrounds : n.sent ≤ 2 ^ 32) : x.Placed n.client n.sent n.heard ∧ x.Faithful n := by
  -- By induction on the run. Each invariant needs the other one of the state before.
  induction h with
  | initial =>
    refine ⟨?_, List.forall_mem_nil _, List.forall_mem_nil _, ?_⟩
    · show x.Placed (.before x.cap patience 1 {}) 0 []
      refine placed_before rfl ?_ (List.forall_mem_nil _)
      exact ⟨[], rfl, List.nodup_nil, List.forall_mem_nil _⟩
    · exact fun turns data h => absurd h (before_ne_replying patience turns data x.client)
  | step before happens ih =>
    have hbefore := Nat.le_trans (sent_le_of_step happens) hrounds
    obtain ⟨hplaced, hfaithful⟩ := ih hbefore
    exact ⟨hplaced.step hsize hfaithful hbefore happens, hfaithful.step hplaced happens⟩

end Step

/-- Client and server ask what the rounds and the background task of the program ask, and go on as
these do. -/
structure Genuine (x : Exchange) : Prop where
  clientStarts : (Client.start x.cap).rest x.server x.size x.cap x.deadline =
    Run.datagramRounds x.server x.size x.cap x.deadline patience 1 {}
  clientGoesOn : ∀ c : Client, c.rest x.server x.size x.cap x.deadline =
    match x.clientView c with
    | none => .done c.rounds
    | some ⟨q, next⟩ => .ask q fun answer => (next answer).rest x.server x.size x.cap x.deadline
  serverStarts : Echo.start.rest x.size = Work.echoDatagrams x.size patience
  serverGoesOn : ∀ e : Echo, e.rest x.size =
    match x.serverView e with
    | none => .done ()
    | some ⟨q, next⟩ => .ask q fun answer => (next answer).rest x.size

/-- What is received in a round, and what is counted. -/
structure OwnEchoes (x : Exchange) (n : Net) : Prop where
  /-- Each sample belongs to a round of its own that has received the echo of its message. -/
  samples : ∃ rounds : List Nat, rounds.length = n.client.rounds.samples.size ∧ rounds.Nodup ∧
    ∀ r ∈ rounds, ∃ d, (r, d) ∈ n.heard ∧ x.IsEcho d r
  /-- A sample is only made when the round has just received the echo of its message. -/
  makes : ∀ n', x.Step n n' → n'.client.rounds.samples ≠ n.client.rounds.samples →
    ∃ t started d, n.client = .echoed t started ∧ n.heard.head? = some (t.round, d) ∧
      x.IsEcho d t.round
  /-- That echo ends the round. Echoes of other rounds and what others have sent do not, and what
  the server has sent with the tag of the round but another length loses it. -/
  receives : ∀ d n', x.Hears n d n' → ∃ t started limit left now,
    n.client = .awaiting t started limit left now ∧ n'.heard = (t.round, d) :: n.heard ∧
    (n'.client = .echoed t started ↔ x.IsEcho d t.round) ∧
    (d.source ≠ x.server ∨ (∃ k, k ≠ t.round ∧ d.origin = .echo (.message k)) →
      n'.client = .polling t started limit left) ∧
    (d.source = x.server → (Message.ofRound x.size t.round).matchesTag d.data →
      d.data.size ≠ x.size → ∃ fault, n'.client = .losing t fault)
  /-- A round does not run out of receptions before all its patience is used up. -/
  patient : ∀ t started limit, n.client = .polling t started limit 0 →
    receptions n.heard t.round = patience

section Echoes

variable {n n' : Net}

theorem genuine (x : Exchange) : x.Genuine where
  clientStarts := Client.rest_start x.server x.size x.cap x.deadline
  clientGoesOn := Client.rest_eq x.server x.size x.cap x.deadline
  serverStarts := Echo.rest_start x.size
  serverGoesOn := Echo.rest_eq x.size

/-- Samples are only made where an echo has come. -/
theorem echoed_of_step (h : x.Step n n')
    (hsample : n'.client.rounds.samples ≠ n.client.rounds.samples) :
    ∃ t started, n.client = .echoed t started := by
  by_cases hopen : ∃ t started, n.client = .echoed t started
  · exact hopen
  · have hkeep : ∀ {q : Request} {next : q.Answer → Client},
        x.clientView n.client = some ⟨q, next⟩ → ∀ answer : q.Answer,
        (next answer).rounds.samples = n.client.rounds.samples := fun asks answer =>
      Client.rounds_of_view asks answer fun t started h => hopen ⟨t, started, h⟩
    cases h with
    | clientAsks answer asks keeps => exact absurd (hkeep asks answer) hsample
    | clientSends answer asks => exact absurd (hkeep asks answer) hsample
    | clientHears hears =>
      obtain ⟨asks, sent, addressed⟩ := hears
      exact absurd (hkeep asks _) hsample
    | clientWaits reception asks vain => exact absurd (hkeep asks reception) hsample
    | serverAsks | serverSends | serverHears | serverWaits | strangerSends | shortens =>
      exact absurd rfl hsample

/-- What a reaction says of the datagram, by where it has led. -/
theorem Reaction.sound {d : Datagram} {t : Turn} {started limit left : Nat} {c : Client}
    (h : x.Reaction d t started limit left c) :
    (c = .echoed t started ↔ x.IsEcho d t.round) ∧
    (d.source ≠ x.server ∨ (∃ k, k ≠ t.round ∧ d.origin = .echo (.message k)) →
      c = .polling t started limit left) ∧
    (d.source = x.server → (Message.ofRound x.size t.round).matchesTag d.data →
      d.data.size ≠ x.size → ∃ fault, c = .losing t fault) := by
  have hforeign : d.source ≠ x.server ∨ (∃ k, k ≠ t.round ∧ d.origin = .echo (.message k)) →
      d.source = x.server → d.origin = .echo (.message t.round) → False := by
    rintro (hsource | ⟨k, hk, horigin⟩) hsource' horigin'
    · exact hsource hsource'
    · rw [horigin] at horigin'
      cases horigin'
      exact hk rfl
  cases h with
  | own echo =>
    refine ⟨⟨fun _ => echo, fun _ => rfl⟩, ?_, ?_⟩
    · exact fun h => (hforeign h echo.source echo.origin).elim
    · exact fun _ _ hlength => absurd echo.length hlength
  | short fault source origin length =>
    refine ⟨⟨Client.noConfusion, fun hecho => absurd hecho.length length⟩, ?_, ?_⟩
    · exact fun h => (hforeign h source origin).elim
    · exact fun _ _ _ => ⟨fault, rfl⟩
  | other foreign untagged =>
    refine ⟨⟨Client.noConfusion, fun hecho => absurd hecho foreign⟩, fun _ => rfl, ?_⟩
    exact fun hsource htag _ => absurd htag (untagged hsource)

/-- Whatever the network does, a sample is that of the echo of its own round. -/
theorem samples_of_own_echoes (hsize : tagLength ≤ x.size) (h : x.Reachable n)
    (hrounds : n.sent ≤ 2 ^ 32) : x.Genuine ∧ x.OwnEchoes n := by
  obtain ⟨hplaced, hfaithful⟩ := placed_and_faithful hsize h hrounds
  refine ⟨genuine x, ?_, ?_, ?_, ?_⟩
  · obtain ⟨rounds, hlength, hnodup, hcredited⟩ := hplaced.credited
    exact ⟨rounds, hlength, hnodup, fun r hr => (hcredited r hr).2⟩
  · intro n' hstep hsample
    obtain ⟨t, started, hclient⟩ := echoed_of_step hstep hsample
    have hplace := hplaced.place
    rw [hclient] at hplace
    obtain ⟨hround, d, hhead, hecho⟩ := hplace
    exact ⟨t, started, d, hclient, hround ▸ hhead, hround ▸ hecho⟩
  · intro d n' hears
    obtain ⟨t, started, limit, left, now, hclient, hreaction, hheard, -⟩ :=
      hears.reaction hsize hplaced hfaithful hrounds
    exact ⟨t, started, limit, left, now, hclient, hheard, hreaction.sound⟩
  · intro t started limit hclient
    have hplace := hplaced.place
    rw [hclient] at hplace
    obtain ⟨hround, hleft⟩ := hplace
    rw [hround]
    omega

end Echoes

section LateEcho

variable {n : Net}

theorem Reachable.clientAsk (h : x.Reachable n) {q : Request} {next : q.Answer → Client}
    (asks : x.clientView n.client = some ⟨q, next⟩) (keeps : clientKeeps q) (answer : q.Answer) :
    x.Reachable { n with client := next answer } :=
  h.step (.clientAsks answer asks keeps)

theorem Reachable.serverAsk (h : x.Reachable n) {q : Duty} {next : q.Answer → Echo}
    (asks : x.serverView n.server = some ⟨q, next⟩) (keeps : serverKeeps q) (answer : q.Answer) :
    x.Reachable { n with server := next answer } :=
  h.step (.serverAsks answer asks keeps)

theorem Reachable.clientHear (h : x.Reachable n) {t : Turn} {started limit left now : Nat}
    (hclient : n.client = .awaiting t started limit left now) {d : Datagram} (hd : d ∈ n.air)
    (haddressed : d.target = x.client) {c : Client}
    (hreaction : Client.onReception x.server x.size t started limit left now (arrival d x.size) =
      c) :
    x.Reachable { n with client := c, heard := (t.round, d) :: n.heard } := by
  have asks : x.clientView n.client = some ⟨.host (.wire (.receive x.size limit)),
      Client.onReception x.server x.size t started limit left now⟩ := by
    rw [hclient]
    rfl
  have hround : t.round = n.client.round := by
    rw [hclient]
    rfl
  rw [← hreaction, hround]
  exact h.step (.clientHears (.intro asks hd haddressed))

/-- Client and server on one host, which want one sample. -/
def pair : Exchange where
  client := .loopback 50001
  server := .loopback 50000
  distinct := by decide
  size := 8
  cap := 1
  deadline := 1

/-- The first round is lost, and its echo comes in the second, before that of the second. -/
theorem reachable_late_echo :
    ∃ n, pair.Reachable n ∧ n.sent = 2 ∧ n.client.rounds.samples.size = 1 ∧
      n.heard.map (fun e => (e.1, e.2.origin)) =
        [(2, .echo (.message 2)), (2, .echo (.message 1))] := by
  have looking := Reachable.initial (x := pair)
  have starting := looking.clientAsk rfl rfl (0 : Nat)
  have timing := starting.clientAsk rfl rfl (0 : Nat)
  have sending := timing.clientAsk rfl rfl (0 : Nat)
  have polling := sending.step (.clientSends (.ok 8) rfl)
  have losing := polling.clientAsk rfl rfl (10 ^ 12 : Nat)
  have looking := losing.clientAsk rfl rfl ()
  have starting := looking.clientAsk rfl rfl (0 : Nat)
  have timing := starting.clientAsk rfl rfl (0 : Nat)
  have sending := timing.clientAsk rfl rfl (0 : Nat)
  have polling := sending.step (.clientSends (.ok 8) rfl)
  have idle := polling.clientAsk rfl rfl (0 : Nat)
  -- Only now the server turns to the datagrams, the older one first.
  have timing := idle.serverAsk rfl rfl false
  have receiving := timing.serverAsk rfl rfl (0 : Nat)
  have replying := receiving.step (.serverHears rfl (.tail _ (.head _)) rfl)
  have idle := replying.step (.serverSends (.ok 8) rfl)
  have timing := idle.serverAsk rfl rfl false
  have receiving := timing.serverAsk rfl rfl (0 : Nat)
  have replying := receiving.step (.serverHears rfl (.tail _ (.head _)) rfl)
  have awaiting := replying.step (.serverSends (.ok 8) rfl)
  have polling := awaiting.clientHear rfl (.tail _ (.head _)) rfl
    (Client.onReception_of_tag (by decide +kernel))
  have awaiting := polling.clientAsk rfl rfl (0 : Nat)
  have echoed := awaiting.clientHear rfl (.head _) rfl
    ((Client.onReception_of_matchesTag (by decide +kernel)).trans (if_pos (by decide +kernel)))
  exact ⟨_, echoed.clientAsk rfl rfl (1 : Nat), rfl, rfl, rfl⟩

theorem samples_of_own_echoes_late_echo :
    ∃ n, pair.Reachable n ∧ n.client.rounds.samples.size = 1 ∧
      n.heard.map (fun e => (e.1, e.2.origin)) =
        [(2, .echo (.message 2)), (2, .echo (.message 1))] ∧
      tagLength ≤ pair.size ∧ n.sent ≤ 2 ^ 32 ∧ pair.Genuine ∧ pair.OwnEchoes n := by
  obtain ⟨n, hreachable, hsent, hsample, hheard⟩ := reachable_late_echo
  have hsize : tagLength ≤ pair.size := by decide
  have hrounds : n.sent ≤ 2 ^ 32 := by omega
  exact ⟨n, hreachable, hsample, hheard, hsize, hrounds,
    samples_of_own_echoes hsize hreachable hrounds⟩

end LateEcho

end Exchange

end LoopGauge.Engine
