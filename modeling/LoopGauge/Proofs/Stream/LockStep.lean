import LoopGauge.Proofs.Stream.Line

/-!
# Rounds in lock step

However a stream cuts and delays what it conveys, and whenever the server finds nothing to read,
the server has sent back only what it has read, and a round ends only with as many bytes back as
were sent. So when a sample is made, all that the rounds have sent so far has gone there and back,
and nothing is left over for a later round.

## Main definitions

* `Line.Settled`: all that was sent has gone there and back.
* `Line.InStep`: the invariant of client, server and stream.
* `Line.LockStep`: what holds at every moment of the rounds.

## Main statements

* `Line.inStep_of_reaches`: the invariant holds at every moment.
* `Line.samples_in_lock_step`: samples are made in lock step, and none after a failure.
-/

namespace LoopGauge.Engine

/-- The server has read bytes that it has not yet written back. After a failure they can be any. -/
def Responder.Owes : Responder → List UInt8 → Prop
  | finished, _ => True
  | holding _ data, owed => owed = bytesOf data
  | replying _ data _ taken, owed => owed = (bytesOf data).drop taken
  | waiting _, owed | calling _, owed | accepting _ _, owed | tuning, owed | idle _, owed
  | timing _, owed | reading _ _, owed => owed = []

namespace Caller

/-- How many bytes a client has written and read, by the place in its rounds. -/
def Place (size written read : Nat) : Caller → Prop
  | looking _ rounds | starting _ rounds =>
    written = rounds.samples.size * size ∧ read = rounds.samples.size * size
  | writing _ rounds _ taken =>
    taken < size ∧ written = rounds.samples.size * size + taken ∧ read = rounds.samples.size * size
  | reading _ rounds _ got =>
    got.size < size ∧ written = (rounds.samples.size + 1) * size ∧
      read = rounds.samples.size * size + got.size
  | ending _ rounds _ =>
    written = (rounds.samples.size + 1) * size ∧ read = (rounds.samples.size + 1) * size
  | finished _ | failing _ _ => True

variable {message : ByteArray} {deadline room started taken written read : Nat} {rounds : Rounds}
  {got : ByteArray}

theorem place_before (size : Nat) (hwritten : written = rounds.samples.size * size)
    (hread : read = rounds.samples.size * size) :
    (before room rounds).Place size written read := by
  cases room with
  | zero => trivial
  | succ room => exact ⟨hwritten, hread⟩

theorem place_onGot (hgot : got.size ≤ message.size)
    (hwritten : written = (rounds.samples.size + 1) * message.size)
    (hread : read = rounds.samples.size * message.size + got.size) :
    (onGot message room rounds started got).Place message.size written read := by
  rw [onGot]
  split
  · rename_i hlt
    exact ⟨hlt, hwritten, hread⟩
  · refine ⟨hwritten, ?_⟩
    rw [Nat.add_mul, Nat.one_mul]
    omega

theorem place_onTaken (htaken : taken ≤ message.size)
    (hwritten : written = rounds.samples.size * message.size + taken)
    (hread : read = rounds.samples.size * message.size) :
    (onTaken message room rounds started taken).Place message.size written read := by
  rw [onTaken]
  split
  · rename_i hlt
    exact ⟨hlt, hwritten, hread⟩
  · refine place_onGot (Nat.zero_le _) ?_ hread
    rw [Nat.add_mul, Nat.one_mul]
    omega

theorem rounds_before : (before room rounds).rounds = rounds := by
  cases room <;> rfl

theorem rounds_onGot : (onGot message room rounds started got).rounds = rounds := by
  rw [onGot]
  split <;> rfl

theorem rounds_onTaken : (onTaken message room rounds started taken).rounds = rounds := by
  rw [onTaken]
  split
  · rfl
  · exact rounds_onGot

theorem rounds_onWrite (answer : Timed Nat) :
    (onWrite message room rounds started taken answer).rounds = rounds := by
  cases answer with
  | ready count =>
    cases count with
    | zero => rfl
    | succ more => exact rounds_onTaken
  | failed cause => rfl
  | expired => rfl

theorem rounds_onRead (answer : Timed ByteArray) :
    (onRead message room rounds started got answer).rounds = rounds := by
  cases answer with
  | ready more =>
    rw [onRead]
    split
    · exact rounds_onGot
    · rfl
  | failed cause => rfl
  | expired => rfl

/-- An operation of a round does not go on: it fails, is late, or has nothing more to give. -/
def Stalls : (w : Wire) → w.Answer → Prop
  | .write _ _, answer => ∀ count, answer = Timed.ready count → count = 0
  | .read _ _, answer => ∀ data : ByteArray, answer = Timed.ready data → data.size = 0
  | .clock, _ | .send _ _, _ | .receive _ _, _ => False

theorem onWrite_of_stalls {answer : Timed Nat} (h : ∀ count, answer = .ready count → count = 0) :
    ∃ fault, onWrite message room rounds started taken answer = failing rounds fault := by
  cases answer with
  | ready count =>
    obtain rfl := h count rfl
    exact ⟨_, rfl⟩
  | failed cause => exact ⟨_, rfl⟩
  | expired => exact ⟨_, rfl⟩

theorem onRead_of_stalls {answer : Timed ByteArray}
    (h : ∀ data : ByteArray, answer = .ready data → data.size = 0) :
    ∃ fault, onRead message room rounds started got answer = failing rounds fault := by
  cases answer with
  | ready data =>
    refine ⟨broken "early eof", if_neg ?_⟩
    rw [h data rfl]
    exact Nat.lt_irrefl 0
  | failed cause => exact ⟨_, rfl⟩
  | expired => exact ⟨_, rfl⟩

end Caller

namespace Line

variable {message : ByteArray} {deadline size room : Nat} {c : Caller} {r : Responder}
  {l l' : Line} {left left' : Run Rounds}

/-- All that was sent has gone there and back: so many bytes each way, and none under way. -/
structure Settled (l : Line) (bytes : Nat) : Prop where
  sent : l.forth.written.length = bytes
  heard : l.forth.read.length = bytes
  echoed : l.back.written.length = bytes
  received : l.back.read.length = bytes
  noneForth : l.forth.inFlight = []
  noneBack : l.back.inFlight = []

/-- The invariant of client, server and stream. -/
structure InStep (message : ByteArray) (size : Nat) (c : Caller) (r : Responder) (l : Line) :
    Prop where
  server : l.server = r.rest size
  owed : ∃ owed, r.Owes owed ∧ l.forth.read = l.back.written ++ owed
  place : c.Place message.size l.forth.written.length l.back.read.length

/-- What the server has written is the beginning of what it has read. -/
theorem InStep.echoed (h : InStep message size c r l) : l.back.written <+: l.forth.read := by
  obtain ⟨owed, -, hread⟩ := h.owed
  exact ⟨owed, hread.symm⟩

/-- If the client has read as much as it has written, nothing is under way. -/
theorem InStep.settled (h : InStep message size c r l) {bytes : Nat}
    (hsent : l.forth.written.length = bytes) (hreceived : l.back.read.length = bytes) :
    l.Settled bytes := by
  -- received ≤ echoed ≤ heard ≤ sent, and the ends are equal.
  have hback := l.back.read_prefix_written.length_le
  have hecho := h.echoed.length_le
  have hforth := l.forth.read_prefix_written.length_le
  have hheard : l.forth.read.length = bytes := by omega
  have hechoed : l.back.written.length = bytes := by omega
  exact ⟨hsent, hheard, hechoed, hreceived, Pipe.inFlight_eq_nil_iff.2 (by omega),
    Pipe.inFlight_eq_nil_iff.2 (by omega)⟩

section Client

/-- The client has written a part of what is left of its message. -/
theorem place_write {rounds : Rounds} {started taken : Nat} {answer : Timed Nat} {deadline : Nat}
    (hplace : (Caller.writing room rounds started taken).Place message.size
      l.forth.written.length l.back.read.length)
    (h : Pipe.Conveys l.forth l.back
      (.write (message.extract taken message.size) deadline) answer l'.forth l'.back) :
    (Caller.onWrite message room rounds started taken answer).Place message.size
      l'.forth.written.length l'.back.read.length := by
  obtain ⟨hlt, hwritten, hread⟩ := hplace
  obtain ⟨hback, ⟨count, rfl, hcount, hforth⟩ | ⟨hvain, hforth⟩⟩ := Pipe.conveys_write h
  · rw [ByteArray.size_extract, Nat.min_self] at hcount
    have hlength : l'.forth.written.length = l.forth.written.length + count := by
      rw [hforth, Pipe.written_write, List.length_append, List.length_take, length_bytesOf,
        ByteArray.size_extract, Nat.min_self, Nat.min_eq_left hcount]
    rw [hlength, hback, hwritten, hread]
    cases count with
    | zero => trivial
    | succ more => exact Caller.place_onTaken (by omega) (Nat.add_assoc _ _ _) rfl
  · cases answer with
    | ready count => exact absurd rfl (hvain count)
    | failed cause => trivial
    | expired => trivial

/-- The client has read a part of what is still to come back. -/
theorem place_read {rounds : Rounds} {started : Nat} {got : ByteArray} {answer : Timed ByteArray}
    {deadline : Nat}
    (hplace : (Caller.reading room rounds started got).Place message.size
      l.forth.written.length l.back.read.length)
    (h : Pipe.Conveys l.forth l.back (.read (message.size - got.size) deadline) answer
      l'.forth l'.back) :
    (Caller.onRead message room rounds started got answer).Place message.size
      l'.forth.written.length l'.back.read.length := by
  obtain ⟨hlt, hwritten, hread⟩ := hplace
  obtain ⟨hforth, ⟨data, rfl, hdata, hbrings⟩ | ⟨hvain, hback⟩⟩ := Pipe.conveys_read h
  · have hlength : l'.back.read.length = l.back.read.length + data.size := by
      rw [hbrings.read, List.length_append, length_bytesOf]
    rw [hlength, hforth, hwritten, hread, Caller.onRead]
    split
    · have hgot : (got ++ data).size = got.size + data.size := ByteArray.size_append
      exact Caller.place_onGot (by omega) rfl (by omega)
    · trivial
  · cases answer with
    | ready data => exact absurd rfl (hvain data)
    | failed cause => trivial
    | expired => trivial

/-- An answer leads the client to a place of which the counts are right. -/
theorem place_answered (hplace : c.Place message.size l.forth.written.length l.back.read.length)
    {q : Request} {next : q.Answer → Caller} {answer : q.Answer}
    (asks : c.view message deadline = some ⟨q, next⟩) (h : Answered l q answer l') :
    (next answer).Place message.size l'.forth.written.length l'.back.read.length := by
  cases c with
  | finished rounds => cases asks
  | looking room rounds =>
    cases asks
    obtain rfl := answered_clock h
    dsimp only
    split
    · trivial
    · exact hplace
  | starting room rounds =>
    cases asks
    obtain rfl := answered_clock h
    exact Caller.place_onTaken (Nat.zero_le _) hplace.1 hplace.2
  | writing room rounds started taken =>
    cases asks
    exact place_write hplace (answered_wire h).2
  | reading room rounds started got =>
    cases asks
    exact place_read hplace (answered_wire h).2
  | ending room rounds started =>
    cases asks
    obtain rfl := answered_clock h
    have hcount : ∀ us, (rounds.echoed us).samples.size = rounds.samples.size + 1 :=
      fun us => Array.size_push ..
    exact Caller.place_before _ (by rw [hcount]; exact hplace.1) (by rw [hcount]; exact hplace.2)
  | failing rounds fault =>
    cases asks
    trivial

theorem InStep.answered (hstep : InStep message size c r l) {q : Request}
    {next : q.Answer → Caller} {answer : q.Answer}
    (asks : c.view message deadline = some ⟨q, next⟩) (h : Answered l q answer l') :
    InStep message size (next answer) r l' := by
  obtain ⟨hserver, howed, hplace⟩ := hstep
  obtain ⟨hsame, hread, hwritten⟩ := h.frame
  refine ⟨hsame.trans hserver, ?_, place_answered hplace asks h⟩
  rw [hread, hwritten]
  exact howed

end Client

section Server

/-- Where the server is behind a reply, it owes what it has not written of it. -/
theorem owes_onTaken (turns : Nat) (data : ByteArray) (limit taken : Nat) :
    (Responder.onTaken turns data limit taken).Owes ((bytesOf data).drop taken) := by
  rw [Responder.onTaken]
  split
  · exact rfl
  · rename_i hle
    have hnone : (bytesOf data).drop taken = [] := by
      rw [List.drop_eq_nil_iff, length_bytesOf]
      omega
    rw [hnone]
    cases turns with
    | zero => trivial
    | succ turns => exact rfl

theorem owes_before (turns : Nat) : (Responder.before turns).Owes [] := by
  cases turns with
  | zero => trivial
  | succ turns => exact rfl

theorem owes_beforeClient (turns : Nat) : (Responder.beforeClient turns).Owes [] := by
  cases turns with
  | zero => trivial
  | succ turns => exact rfl

/-- The server does what does not concern the stream. -/
theorem owes_apart {q : Duty} {next : q.Answer → Responder} {owed : List UInt8}
    (howes : r.Owes owed) (asks : r.view size = some ⟨q, next⟩) (apart : ∀ w, q ≠ .wire w)
    (answer : q.Answer) : (next answer).Owes owed := by
  cases r with
  | waiting turns | idle turns =>
    cases asks
    obtain rfl := howes
    dsimp only
    split
    · trivial
    · exact rfl
  | accepting turns limit =>
    cases asks
    obtain rfl := howes
    cases answer with
    | ready client => exact rfl
    | failed cause => trivial
    | expired => exact owes_beforeClient turns
  | tuning =>
    cases asks
    obtain rfl := howes
    exact owes_before patience
  | finished => cases asks
  | calling turns | timing turns | reading turns limit | holding turns data
  | replying turns data limit taken =>
    cases asks
    exact absurd rfl (apart _)

/-- The server reads nothing before it has written back all that it has read. -/
theorem owes_wire {w : Wire} {next : w.Answer → Responder} {answer : w.Answer}
    {forth back forth' back' : Pipe} {owed : List UInt8} (howes : r.Owes owed)
    (hread : forth.read = back.written ++ owed) (asks : r.view size = some ⟨.wire w, next⟩)
    (h : Pipe.Conveys back forth w answer back' forth') :
    ∃ owed', (next answer).Owes owed' ∧ forth'.read = back'.written ++ owed' := by
  cases r with
  | calling turns | timing turns =>
    cases asks
    obtain rfl := howes
    obtain ⟨rfl, rfl⟩ := Pipe.conveys_clock h
    exact ⟨[], rfl, hread⟩
  | holding turns data =>
    cases asks
    obtain rfl := howes
    obtain ⟨rfl, rfl⟩ := Pipe.conveys_clock h
    exact ⟨bytesOf data, owes_onTaken turns data _ 0, hread⟩
  | reading turns limit =>
    cases asks
    obtain rfl := howes
    rw [List.append_nil] at hread
    obtain ⟨rfl, ⟨data, rfl, -, hbrings⟩ | ⟨hvain, rfl⟩⟩ := Pipe.conveys_read h
    · refine ⟨bytesOf data, ?_, by rw [hbrings.read, hread]⟩
      rw [Responder.onRead]
      split
      · trivial
      · exact rfl
    · refine ⟨[], ?_, by rw [hread, List.append_nil]⟩
      cases answer with
      | ready data => exact absurd rfl (hvain data)
      | failed cause => trivial
      | expired => exact owes_before turns
  | replying turns data limit taken =>
    cases asks
    obtain rfl := howes
    obtain ⟨rfl, ⟨count, rfl, -, rfl⟩ | ⟨hvain, rfl⟩⟩ := Pipe.conveys_write h
    -- What is written is taken off the beginning of what is owed.
    · rw [bytesOf_extract_size]
      refine ⟨(bytesOf data).drop (taken + count), ?_, ?_⟩
      · cases count with
        | zero => trivial
        | succ more => exact owes_onTaken turns data limit (taken + (more + 1))
      · rw [Pipe.written_write, List.append_assoc, ← List.drop_drop, List.take_append_drop]
        exact hread
    · refine ⟨(bytesOf data).drop taken, ?_, hread⟩
      cases answer with
      | ready count => exact absurd rfl (hvain count)
      | failed cause => trivial
      | expired => trivial
  | finished | waiting turns | accepting turns limit | tuning | idle turns => cases asks

theorem InStep.serves (hstep : InStep message size c r l) (h : Serves l l') :
    ∃ r', InStep message size c r' l' := by
  obtain ⟨hserver, ⟨owed, howes, hread⟩, hplace⟩ := hstep
  obtain ⟨hback, hforth⟩ := h.frame
  rw [← hforth, ← hback] at hplace
  cases h with
  | wire asks conveys =>
    obtain ⟨next, hview, hnext⟩ := Responder.exists_of_ask size (hserver.symm.trans asks)
    exact ⟨_, hnext _, owes_wire howes hread hview conveys, hplace⟩
  | other asks apart answer =>
    obtain ⟨next, hview, hnext⟩ := Responder.exists_of_ask size (hserver.symm.trans asks)
    exact ⟨_, hnext _, ⟨owed, owes_apart howes hview apart answer, hread⟩, hplace⟩

end Server

/-- At every moment the client is in one of its places, and the invariant holds. -/
theorem inStep_of_reaches
    (h : (Run.streamRounds message deadline room {}).Reaches Answered Serves (quiet size) left l) :
    ∃ c r, left = c.rest message deadline ∧ InStep message size c r l := by
  -- An answer moves the client from place to place, a drift the server.
  induction h with
  | start =>
    refine ⟨.before room {}, .start, (Caller.rest_before message deadline room {}).symm,
      (Responder.rest_start size).symm, ⟨[], owes_beforeClient patience, rfl⟩, ?_⟩
    exact Caller.place_before message.size (Nat.zero_mul _).symm (Nat.zero_mul _).symm
  | turn before turn ih =>
    obtain ⟨c, r, rfl, hstep⟩ := ih
    obtain ⟨q, next, answer, asks, answered, rfl⟩ := Caller.exists_of_turn message deadline turn
    exact ⟨next answer, r, rfl, hstep.answered asks answered⟩
  | drift before drift ih =>
    obtain ⟨c, r, rfl, hstep⟩ := ih
    obtain ⟨r', hstep'⟩ := hstep.serves drift
    exact ⟨c, r', rfl, hstep'⟩

section Rounds

/-- An answer leaves the samples as they are, or it is the reading of the clock that ends a
round. -/
theorem rounds_answered {q : Request} {next : q.Answer → Caller}
    (asks : c.view message deadline = some ⟨q, next⟩) (answer : q.Answer) :
    (next answer).rounds = c.rounds ∨
      (∃ us, (next answer).rounds = c.rounds.echoed us) ∧
        ∃ room rounds started, c = .ending room rounds started := by
  cases c with
  | finished rounds => cases asks
  | looking room rounds =>
    cases asks
    left
    dsimp only
    split <;> rfl
  | starting room rounds =>
    cases asks
    exact .inl Caller.rounds_onTaken
  | writing room rounds started taken =>
    cases asks
    exact .inl (Caller.rounds_onWrite answer)
  | reading room rounds started got =>
    cases asks
    exact .inl (Caller.rounds_onRead answer)
  | ending room rounds started =>
    cases asks
    exact .inr ⟨⟨_, Caller.rounds_before⟩, room, rounds, started, rfl⟩
  | failing rounds fault =>
    cases asks
    exact .inl rfl

/-- An operation that does not go on makes the round fail. -/
theorem failing_of_stalls {w : Wire} {next : w.Answer → Caller} {answer : w.Answer}
    (asks : c.view message deadline = some ⟨.host (.wire w), next⟩)
    (stalls : Caller.Stalls w answer) : ∃ fault, next answer = .failing c.rounds fault := by
  cases c with
  | writing room rounds started taken =>
    cases asks
    exact Caller.onWrite_of_stalls stalls
  | reading room rounds started got =>
    cases asks
    exact Caller.onRead_of_stalls stalls
  | looking room rounds | starting room rounds | ending room rounds started =>
    cases asks
    exact stalls.elim
  | finished rounds | failing rounds fault => cases asks

/-- A round that has failed is reported, and then the rounds are over. -/
theorem eq_or_eq_of_failing {rounds : Rounds} {fault : Fault}
    (h : ((Caller.failing rounds fault).rest message deadline).Reaches Answered Serves l left' l') :
    left' = (Caller.failing rounds fault).rest message deadline ∨ left' = .done rounds := by
  induction h with
  | start => exact .inl rfl
  | turn before turn ih =>
    obtain rfl | rfl := ih
    · obtain ⟨q, next, answer, asks, -, rfl⟩ := Caller.exists_of_turn message deadline turn
      cases asks
      exact .inr rfl
    · exact absurd turn Dialogue.not_turn_done
  | drift before drift ih => exact ih

end Rounds

/-- What holds at a moment of the rounds at which the client is in a place. -/
structure LockStep (message : ByteArray) (deadline : Nat) (c : Caller) (l : Line) : Prop where
  /-- An answer leads the client to the next place. -/
  goesOn : ∀ left' l', Dialogue.Turn Answered (c.rest message deadline) l left' l' →
    ∃ q next answer, c.view message deadline = some ⟨q, next⟩ ∧ Answered l q answer l' ∧
      left' = (next answer).rest message deadline
  /-- What the server has written is the beginning of what it has read. -/
  echoed : l.back.written <+: l.forth.read
  /-- What the server has read is the beginning of what the client has written. -/
  arrived : l.forth.read <+: l.forth.written
  /-- An answer leaves what the rounds have brought as it is, or makes one sample more. Then all
  that was sent for the samples so far, and nothing else, has gone there and back. -/
  makes : ∀ q next answer l', c.view message deadline = some ⟨q, next⟩ → Answered l q answer l' →
    (next answer).rounds = c.rounds ∨
      (∃ us, (next answer).rounds = c.rounds.echoed us) ∧
        l'.Settled ((next answer).rounds.samples.size * message.size)
  /-- A round of which an operation does not go on has failed, with the samples made so far. -/
  fails : ∀ w next answer, c.view message deadline = some ⟨.host (.wire w), next⟩ →
    Caller.Stalls w answer → ∃ fault, next answer = .failing c.rounds fault
  /-- After a failure there is the report of it, and then the rounds are over with these samples. -/
  keeps : ∀ rounds fault left' l', c = .failing rounds fault →
    (c.rest message deadline).Reaches Answered Serves l left' l' →
      left' = c.rest message deadline ∨ left' = .done rounds

theorem InStep.lockStep (h : InStep message size c r l) : LockStep message deadline c l where
  goesOn _ _ turn := Caller.exists_of_turn message deadline turn
  echoed := h.echoed
  arrived := l.forth.read_prefix_written
  makes q next answer l' asks answered := by
    obtain hsame | ⟨⟨us, hus⟩, room, rounds, started, rfl⟩ := rounds_answered asks answer
    · exact .inl hsame
    · cases asks
      obtain rfl := answered_clock answered
      refine .inr ⟨⟨us, hus⟩, ?_⟩
      have hcount : (rounds.echoed us).samples.size = rounds.samples.size + 1 := Array.size_push ..
      rw [hus]
      exact h.settled (hcount ▸ h.place.1) (hcount ▸ h.place.2)
  fails _ _ _ asks stalls := failing_of_stalls asks stalls
  keeps _ _ _ _ hfailing reaches := by
    subst hfailing
    exact eq_or_eq_of_failing reaches

/-- **Rounds in lock step**: at every moment of rounds over a stream, the client is in a place of
its rounds, samples are only made when all that was sent has gone there and back, and none is made
after a failure. -/
theorem samples_in_lock_step
    (h : (Run.streamRounds message deadline room {}).Reaches Answered Serves (quiet size) left l) :
    ∃ c, left = c.rest message deadline ∧ LockStep message deadline c l ∧
      ∀ rounds, left = .done rounds → c.rounds = rounds := by
  obtain ⟨c, r, rfl, hstep⟩ := inStep_of_reaches h
  refine ⟨c, rfl, hstep.lockStep, fun rounds hdone => ?_⟩
  rw [Caller.rest_eq] at hdone
  cases hview : c.view message deadline with
  | none =>
    rw [hview] at hdone
    exact Dialogue.done.inj hdone
  | some v =>
    rw [hview] at hdone
    cases hdone

section TwoPieces

/-- At some moment of rounds for one sample, client and server are in these places, with these pipes
between them. -/
def Meet (message : ByteArray) (c : Caller) (r : Responder) (forth back : Pipe) : Prop :=
  (Run.streamRounds message 1 1 {}).Reaches Answered Serves (quiet 2) (c.rest message 1)
    ⟨r.rest 2, forth, back⟩

variable {forth back forth' back' : Pipe} {w : Wire}

theorem Meet.start (message : ByteArray) :
    Meet message (.looking 0 {}) .start {} {} := by
  rw [Meet, Responder.rest_start]
  exact .start

theorem Meet.ask (h : Meet message c r forth back) {next : w.Answer → Caller} {answer : w.Answer}
    (asks : c.view message 1 = some ⟨.host (.wire w), next⟩)
    (conveys : Pipe.Conveys forth back w answer forth' back') :
    Meet message (next answer) r forth' back' := by
  rw [Meet, Caller.rest_eq, asks] at h
  exact h.ask (.wire conveys)

theorem Meet.serve (h : Meet message c r forth back) {next : w.Answer → Responder}
    {answer : w.Answer} (asks : r.view 2 = some ⟨.wire w, next⟩)
    (conveys : Pipe.Conveys back forth w answer back' forth') :
    Meet message c (next answer) forth' back' := by
  have hasks : r.rest 2 = .ask (.wire w) fun answer => (next answer).rest 2 := by
    rw [Responder.rest_eq, asks]
  exact Dialogue.Reaches.drift h (@Serves.wire ⟨r.rest 2, forth, back⟩ w _ _ _ _ hasks conveys)

theorem Meet.wait (h : Meet message c r forth back) {q : Duty} {next : q.Answer → Responder}
    (asks : r.view 2 = some ⟨q, next⟩) (apart : ∀ w, q ≠ .wire w) (answer : q.Answer) :
    Meet message c (next answer) forth back := by
  have hasks : r.rest 2 = .ask q fun answer => (next answer).rest 2 := by
    rw [Responder.rest_eq, asks]
  exact Dialogue.Reaches.drift h (@Serves.other ⟨r.rest 2, forth, back⟩ q _ hasks apart answer)

/-- A message of two bytes. -/
def pairOfBytes : ByteArray := ⟨#[1, 2]⟩

/-- The server finds nothing to read at first, then reads and sends back one byte after the
other. -/
theorem meet_one_sample :
    ∃ rounds forth back r, Meet pairOfBytes (.finished rounds) r forth back ∧
      rounds.samples.size = 1 := by
  have starting := (Meet.start pairOfBytes).ask rfl (.clock (0 : Nat))
  have writing := starting.ask rfl (.clock (0 : Nat))
  have sent := writing.ask rfl (@Pipe.Conveys.takes _ _ _ _ 2 (by decide))
  have waiting := sent.wait rfl nofun false
  have calling := waiting.serve rfl (.clock (0 : Nat))
  have accepted := calling.wait rfl nofun (Timed.ready ())
  have tuned := accepted.wait rfl nofun ()
  have idle := tuned.wait rfl nofun false
  have timed := idle.serve rfl (.clock (0 : Nat))
  have late := timed.serve rfl (.bringsNothing .expired nofun)
  have idle := late.wait rfl nofun false
  have timed := idle.serve rfl (.clock (0 : Nat))
  have holding := timed.serve rfl
    (@Pipe.Conveys.brings _ _ ⟨[1], [2]⟩ _ _ ⟨#[1]⟩ (by decide) ⟨rfl, by decide +kernel⟩)
  have replying := holding.serve rfl (.clock (0 : Nat))
  have replied := replying.serve rfl (@Pipe.Conveys.takes _ _ _ _ 1 (by decide))
  have idle := replied.wait rfl nofun false
  have timed := idle.serve rfl (.clock (0 : Nat))
  have holding := timed.serve rfl
    (@Pipe.Conveys.brings _ _ ⟨[1, 2], []⟩ _ _ ⟨#[2]⟩ (by decide) ⟨rfl, rfl⟩)
  have replying := holding.serve rfl (.clock (0 : Nat))
  have replied := replying.serve rfl (@Pipe.Conveys.takes _ _ _ _ 1 (by decide))
  have ending := replied.ask rfl
    (@Pipe.Conveys.brings _ _ ⟨[1, 2], []⟩ _ _ ⟨#[1, 2]⟩ (by decide) ⟨rfl, by decide +kernel⟩)
  exact ⟨_, _, _, _, ending.ask rfl (.clock (1 : Nat)), rfl⟩

theorem samples_in_lock_step_two_pieces :
    ∃ left l rounds, (Run.streamRounds pairOfBytes 1 1 {}).Reaches Answered Serves (quiet 2) left l ∧
      left = .done rounds ∧ rounds.samples.size = 1 ∧
      ∃ c, left = c.rest pairOfBytes 1 ∧ LockStep pairOfBytes 1 c l ∧
        ∀ rounds, left = .done rounds → c.rounds = rounds := by
  obtain ⟨rounds, forth, back, r, hmeet, hsample⟩ := meet_one_sample
  exact ⟨_, _, rounds, hmeet, rfl, hsample, samples_in_lock_step hmeet⟩

end TwoPieces

end Line

end LoopGauge.Engine
