import LoopGauge.Proofs.Datagram.Network

/-!
# Rounds of the client

What the client makes of a reception, and the invariant of its rounds: each of them has sent one
message, and each sample belongs to a round of its own that has received the echo of its message.

## Main definitions

* `Exchange.IsEcho`: a datagram is the echo of the message of a round.
* `Exchange.Credited`: samples belong to different rounds that have received their echo.
* `Exchange.Placed`: the invariant of the client.

## Main statements

* `Client.rounds_of_view`: only the end of a round that has received its echo makes a sample.
* `Exchange.Placed.ask`, `Exchange.Placed.send`, `Exchange.Placed.wait`: what keeps the invariant
  when nothing is received.
* `Exchange.Placed.pass`, `Exchange.Placed.echo`, `Exchange.Placed.lose`: and when something is.
-/

namespace LoopGauge.Engine

namespace Client

variable {server peer : Address} {size : Nat} {t : Turn} {started limit left now : Nat}
  {data : ByteArray}

/-- What does not concern the round is passed over. -/
theorem onReception_of_not_concerns
    (h : (Message.ofRound size t.round).concerns server peer data = false) :
    onReception server size t started limit left now (.ready (data, peer)) =
      polling t started limit left := by
  simp only [onReception, Timed.received, h, Bool.not_false, if_true]

theorem onReception_of_ne (hpeer : peer ≠ server) :
    onReception server size t started limit left now (.ready (data, peer)) =
      polling t started limit left := by
  refine onReception_of_not_concerns ?_
  rw [Message.concerns, beq_eq_false_iff_ne.2 hpeer, Bool.false_and]

theorem onReception_of_tag (htag : ¬(Message.ofRound size t.round).matchesTag data) :
    onReception server size t started limit left now (.ready (data, peer)) =
      polling t started limit left := by
  refine onReception_of_not_concerns ?_
  rw [Message.concerns, Bool.eq_false_iff.2 htag, Bool.and_false]

/-- A datagram of the server with the tag of the round ends it: by its length it is the echo, or
the round is lost. -/
theorem onReception_of_matchesTag (htag : (Message.ofRound size t.round).matchesTag data) :
    onReception server size t started limit left now (.ready (data, server)) =
      if data.size = size then echoed t started
      else losing t ⟨.transport, "short echo: " ++ Number.decimal data.size ++ " of " ++
        Number.decimal size ++ " bytes"⟩ := by
  have hconcerns : (Message.ofRound size t.round).concerns server server data = true := by
    rw [Message.concerns, htag, Bool.and_true]
    exact beq_self_eq_true server
  simp only [onReception, Timed.received, hconcerns, Bool.not_true, Bool.false_eq_true, if_false]

theorem rounds_before (cap turns round : Nat) (rounds : Rounds) :
    (before cap turns round rounds).rounds = rounds := by
  cases turns with
  | zero => rfl
  | succ turns =>
    rw [before]
    split <;> rfl

/-- A reception leaves what the rounds have brought as it is. -/
theorem rounds_onReception (reception : Timed (ByteArray × Address)) :
    (onReception server size t started limit left now reception).rounds = t.rounds := by
  rw [onReception]
  split
  · rfl
  · split
    · rfl
    · split <;> rfl

/-- Only the end of a round that has received its echo makes a sample. -/
theorem rounds_of_view {cap deadline : Nat} {c : Client} {q : Request} {next : q.Answer → Client}
    (asks : c.view server size cap deadline = some ⟨q, next⟩) (answer : q.Answer)
    (hopen : ∀ t started, c ≠ .echoed t started) :
    (next answer).rounds.samples = c.rounds.samples := by
  cases c with
  | finished rounds => cases asks
  | looking t =>
    cases asks
    dsimp only
    split <;> rfl
  | starting t =>
    cases asks
    rfl
  | timing t started =>
    cases asks
    rfl
  | sending t started limit =>
    cases asks
    cases answer with
    | error cause => rfl
    | ok sent =>
      rw [onSent]
      split <;> rfl
  | polling t started limit left =>
    cases left with
    | zero =>
      cases asks
      dsimp only
      rw [next, rounds_before]
      rfl
    | succ left =>
      cases asks
      dsimp only
      split <;> rfl
  | awaiting t started limit left now =>
    cases asks
    exact congrArg Rounds.samples (rounds_onReception answer)
  | echoed t started => exact absurd rfl (hopen t started)
  | losing t fault =>
    cases asks
    dsimp only
    rw [next, rounds_before]
    rfl

end Client

namespace Exchange

variable {x : Exchange}

/-- A datagram of the server, of the length of a message, that was sent in answer to the message of
a round. -/
structure IsEcho (x : Exchange) (d : Datagram) (round : Nat) : Prop where
  source : d.source = x.server
  length : d.data.size = x.size
  origin : d.origin = .echo (.message round)

/-- So many samples belong to different rounds before a bound, each of which has received the echo
of its own message. -/
def Credited (x : Exchange) (heard : List (Nat × Datagram)) (bound count : Nat) : Prop :=
  ∃ rounds : List Nat, rounds.length = count ∧ rounds.Nodup ∧
    ∀ r ∈ rounds, r < bound ∧ ∃ d, (r, d) ∈ heard ∧ x.IsEcho d r

theorem Credited.mono {heard heard' : List (Nat × Datagram)} {bound bound' count : Nat}
    (h : x.Credited heard bound count) (hheard : ∀ e ∈ heard, e ∈ heard')
    (hbound : bound ≤ bound') : x.Credited heard' bound' count := by
  obtain ⟨rounds, hlength, hnodup, hrounds⟩ := h
  refine ⟨rounds, hlength, hnodup, fun r hr => ?_⟩
  obtain ⟨hlt, d, hd, hecho⟩ := hrounds r hr
  exact ⟨by omega, d, hheard _ hd, hecho⟩

/-- The round itself is credited with one sample more. -/
theorem Credited.push {heard : List (Nat × Datagram)} {round count : Nat} {d : Datagram}
    (h : x.Credited heard round count) (hd : (round, d) ∈ heard) (hecho : x.IsEcho d round) :
    x.Credited heard (round + 1) (count + 1) := by
  obtain ⟨rounds, hlength, hnodup, hrounds⟩ := h
  refine ⟨round :: rounds, by rw [List.length_cons, hlength], ?_, ?_⟩
  · refine List.nodup_cons.2 ⟨fun hmem => ?_, hnodup⟩
    have hlt := (hrounds round hmem).1
    omega
  · intro r hr
    obtain rfl | hr := List.mem_cons.1 hr
    · exact ⟨by omega, d, hd, hecho⟩
    · obtain ⟨hlt, hreceived⟩ := hrounds r hr
      exact ⟨by omega, hreceived⟩

/-- How many datagrams a round has received. -/
def receptions (heard : List (Nat × Datagram)) (round : Nat) : Nat :=
  heard.countP (·.1 == round)

/-- Where a client is, given how many datagrams it has sent and which it has received. -/
def Place (x : Exchange) (sent : Nat) (heard : List (Nat × Datagram)) : Client → Prop
  | .finished _ => True
  | .looking t | .starting t | .timing t _ | .sending t _ _ => t.round = sent + 1
  | .polling t _ _ left => t.round = sent ∧ left + receptions heard sent = patience
  | .awaiting t _ _ left _ => t.round = sent ∧ left + 1 + receptions heard sent = patience
  | .echoed t _ => t.round = sent ∧ ∃ d, heard.head? = some (sent, d) ∧ x.IsEcho d sent
  | .losing t _ => t.round = sent

/-- The first round whose samples cannot have been counted yet. -/
def frontier (sent : Nat) : Client → Nat
  | .finished _ => sent + 1
  | .looking t | .starting t | .timing t _ | .sending t _ _ | .polling t _ _ _
  | .awaiting t _ _ _ _ | .echoed t _ | .losing t _ => t.round

/-- The invariant of the client. -/
structure Placed (x : Exchange) (c : Client) (sent : Nat) (heard : List (Nat × Datagram)) :
    Prop where
  place : x.Place sent heard c
  credited : x.Credited heard (frontier sent c) c.rounds.samples.size
  earlier : ∀ e ∈ heard, e.1 ≤ sent

section Client

variable {c : Client} {sent : Nat} {heard : List (Nat × Datagram)}

/-- The next round, if there is one, is the one after the last that was sent. -/
theorem placed_before {turns round : Nat} {rounds : Rounds} (hround : round = sent + 1)
    (hcredited : x.Credited heard round rounds.samples.size) (hearlier : ∀ e ∈ heard, e.1 ≤ sent) :
    x.Placed (.before x.cap turns round rounds) sent heard := by
  subst hround
  cases turns with
  | zero => exact ⟨trivial, hcredited, hearlier⟩
  | succ turns =>
    rw [Client.before]
    split
    · exact ⟨trivial, hcredited, hearlier⟩
    · exact ⟨rfl, hcredited, hearlier⟩

/-- A round that is lost leaves the samples as they are. -/
theorem placed_missed {t : Turn} (hround : t.round = sent)
    (hcredited : x.Credited heard t.round t.rounds.samples.size)
    (hearlier : ∀ e ∈ heard, e.1 ≤ sent) :
    x.Placed (.next x.cap t t.rounds.missed) sent heard :=
  placed_before (by rw [hround]) (hcredited.mono (fun _ h => h) (by omega)) hearlier

/-- What does not concern the socket. -/
theorem Placed.ask (h : x.Placed c sent heard) {q : Request} {next : q.Answer → Client}
    (asks : x.clientView c = some ⟨q, next⟩) (keeps : clientKeeps q) (answer : q.Answer) :
    x.Placed (next answer) sent heard := by
  obtain ⟨hplace, hcredited, hearlier⟩ := h
  cases c with
  | finished rounds => cases asks
  | looking t =>
    cases asks
    dsimp only
    split
    · exact ⟨trivial, hcredited.mono (fun _ h => h) (Nat.le_of_eq hplace), hearlier⟩
    · exact ⟨hplace, hcredited, hearlier⟩
  | starting t =>
    cases asks
    exact ⟨hplace, hcredited, hearlier⟩
  | timing t started =>
    cases asks
    exact ⟨hplace, hcredited, hearlier⟩
  | sending t started limit =>
    cases asks
    cases keeps
  | polling t started limit left =>
    obtain ⟨hround, hleft⟩ := hplace
    cases left with
    | zero =>
      cases asks
      exact placed_missed hround hcredited hearlier
    | succ left =>
      cases asks
      dsimp only
      split
      · exact ⟨hround, hcredited, hearlier⟩
      · exact ⟨⟨hround, hleft⟩, hcredited, hearlier⟩
  | awaiting t started limit left now =>
    cases asks
    cases keeps
  | echoed t started =>
    obtain ⟨hround, d, hhead, hecho⟩ := hplace
    cases asks
    -- The only step to a new sample: the round credits itself with the echo it has just received.
    have hheard : (t.round, d) ∈ heard := by
      rw [hround]
      exact List.mem_of_head? hhead
    refine placed_before (by rw [hround]) ?_ hearlier
    rw [Rounds.echoed, Array.size_push]
    exact Credited.push hcredited hheard (hround ▸ hecho)
  | losing t fault =>
    cases asks
    exact placed_missed hplace hcredited hearlier

/-- A round that has not received anything yet has all its patience left. -/
theorem receptions_eq_zero {round : Nat} (hearlier : ∀ e ∈ heard, e.1 < round) :
    receptions heard round = 0 := by
  refine List.countP_eq_zero.2 fun e he => ?_
  have hlt := hearlier e he
  rw [beq_iff_eq]
  omega

/-- The client sends the message of the round that it is in. -/
theorem sending_of_sends {data : ByteArray} {peer : Address}
    {next : (Request.host (.wire (.send data peer))).Answer → Client}
    (asks : x.clientView c = some ⟨.host (.wire (.send data peer)), next⟩) :
    ∃ t started limit, c = .sending t started limit ∧
      data = (Message.ofRound x.size t.round).bytes ∧ peer = x.server ∧
      next = Client.onSent x.size t started limit := by
  cases c with
  | sending t started limit =>
    cases asks
    exact ⟨t, started, limit, rfl, rfl, rfl, rfl⟩
  | finished rounds => cases asks
  | looking t => cases asks
  | starting t => cases asks
  | timing t started => cases asks
  | polling t started limit left => cases left <;> cases asks
  | awaiting t started limit left now => cases asks
  | echoed t started => cases asks
  | losing t fault => cases asks

/-- What is sent is the message of the next round. -/
theorem Placed.send (h : x.Placed c sent heard) {data : ByteArray} {peer : Address}
    {next : (Request.host (.wire (.send data peer))).Answer → Client}
    (asks : x.clientView c = some ⟨.host (.wire (.send data peer)), next⟩)
    (answer : Except String Nat) :
    x.Placed (next answer) (sent + 1) heard ∧ c.round = sent + 1 ∧
      data = (Message.ofRound x.size (sent + 1)).bytes ∧ peer = x.server := by
  obtain ⟨t, started, limit, rfl, rfl, rfl, rfl⟩ := sending_of_sends asks
  obtain ⟨hplace, hcredited, hearlier⟩ := h
  have hround : t.round = sent + 1 := hplace
  have hlater : ∀ e ∈ heard, e.1 ≤ sent + 1 := fun e he => Nat.le_succ_of_le (hearlier e he)
  refine ⟨?_, hround, by rw [hround], rfl⟩
  cases answer with
  | error cause => exact ⟨hround, hcredited, hlater⟩
  | ok count =>
    -- Nothing was received in a round that did not exist, so it starts with all its patience.
    have hnone : receptions heard (sent + 1) = 0 :=
      receptions_eq_zero fun e he => Nat.lt_succ_of_le (hearlier e he)
    rw [Client.onSent]
    split
    · exact ⟨⟨hround, by rw [hnone, Nat.add_zero]⟩, hcredited, hlater⟩
    · exact ⟨hround, hcredited, hlater⟩

/-- The client receives while it awaits the echo of the message that it has sent last. -/
theorem awaiting_of_receives {size limit : Nat}
    {next : (Request.host (.wire (.receive size limit))).Answer → Client}
    (asks : x.clientView c = some ⟨.host (.wire (.receive size limit)), next⟩) :
    ∃ t started left now, c = .awaiting t started limit left now ∧ size = x.size ∧
      next = Client.onReception x.server x.size t started limit left now := by
  cases c with
  | awaiting t started limit left now =>
    cases asks
    exact ⟨t, started, left, now, rfl, rfl, rfl⟩
  | finished rounds => cases asks
  | looking t => cases asks
  | starting t => cases asks
  | timing t started => cases asks
  | sending t started limit => cases asks
  | polling t started limit left => cases left <;> cases asks
  | echoed t started => cases asks
  | losing t fault => cases asks

/-- A reception that brings nothing ends the round. -/
theorem Placed.wait (h : x.Placed c sent heard) {size limit : Nat}
    {next : (Request.host (.wire (.receive size limit))).Answer → Client}
    (asks : x.clientView c = some ⟨.host (.wire (.receive size limit)), next⟩)
    {reception : Timed (ByteArray × Address)} (vain : isVain reception) :
    x.Placed (next reception) sent heard := by
  obtain ⟨t, started, left, now, rfl, rfl, rfl⟩ := awaiting_of_receives asks
  obtain ⟨⟨hround, hleft⟩, hcredited, hearlier⟩ := h
  cases reception with
  | ready arrival => cases vain
  | failed cause => exact ⟨hround, hcredited, hearlier⟩
  | expired => exact ⟨hround, hcredited, hearlier⟩

/-- A datagram that is passed over costs a reception. -/
theorem Placed.pass {t : Turn} {started limit left now : Nat}
    (h : x.Placed (.awaiting t started limit left now) sent heard) (d : Datagram) :
    x.Placed (.polling t started limit left) sent ((t.round, d) :: heard) := by
  obtain ⟨⟨hround, hleft⟩, hcredited, hearlier⟩ := h
  refine ⟨⟨hround, ?_⟩, hcredited.mono (fun _ => List.mem_cons_of_mem _) (Nat.le_refl _), ?_⟩
  · have hcount : receptions ((t.round, d) :: heard) sent = receptions heard sent + 1 :=
      List.countP_cons_of_pos (beq_iff_eq.2 hround)
    rw [hcount]
    omega
  · refine List.forall_mem_cons.2 ⟨Nat.le_of_eq hround, hearlier⟩

/-- The echo of its own message ends the round. -/
theorem Placed.echo {t : Turn} {started limit left now : Nat}
    (h : x.Placed (.awaiting t started limit left now) sent heard) {d : Datagram}
    (hecho : x.IsEcho d t.round) :
    x.Placed (.echoed t started) sent ((t.round, d) :: heard) := by
  obtain ⟨hplace, hcredited, hearlier⟩ := h.pass d
  refine ⟨⟨hplace.1, d, ?_, hplace.1 ▸ hecho⟩, hcredited, hearlier⟩
  rw [List.head?_cons, hplace.1]

/-- A datagram with the tag of the round that is not as long as its message loses the round. -/
theorem Placed.lose {t : Turn} {started limit left now : Nat}
    (h : x.Placed (.awaiting t started limit left now) sent heard) (d : Datagram) (fault : Fault) :
    x.Placed (.losing t fault) sent ((t.round, d) :: heard) := by
  obtain ⟨hplace, hcredited, hearlier⟩ := h.pass d
  exact ⟨hplace.1, hcredited, hearlier⟩

end Client

end Exchange

end LoopGauge.Engine
