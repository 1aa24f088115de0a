import LoopGauge.Engine.Throughput
import LoopGauge.Proofs.Datagram.Tag
import LoopGauge.Proofs.Transfer.Ledger
import Mathlib.Data.List.Induction

/-!
# The source of a transfer over a stream

A source writes its buffer again and again, and the stream takes as much of it as it likes. The next
write goes on behind what was taken, so the place in the buffer is what the stream has taken in all,
modulo the size of the buffer. A buffer is never empty, whatever sizes a probe was asked for. So
there is always something left to be written, and a stream that takes nothing has lost its sink.

## Main definitions

* `Sized`: the size of the buffer of a probe that was asked for sizes.
* `Outflow`: what the stream has taken, and whether its sink is gone.
* `Sender`: where a source is in its sending.
* `Sender.InStep`: the offset and the counter of a source agree with what the stream has taken.
* `Offers`: what holds of a write.

## Main statements

* `ThroughputProbe.sized`: sizes are within their bounds.
* `Sender.inStep_of_answered`: an answer leaves source and stream in step.
* `ThroughputProbe.writes_in_step`: at every moment, source and stream are in step.
-/

namespace LoopGauge

/-! ### Sizes -/

/-- The largest buffer of a probe. -/
def Transport.largestBuffer : Transport → UInt64
  | tcp => 1048576
  | udp => 65000

/-- The buffer of a probe that was not asked for any other. -/
def Transport.usualBuffer : Transport → UInt64
  | tcp => 131072
  | udp => 8192

namespace Limits

theorem bufferSize_eq (t : Transport) (requested : UInt64) :
    bufferSize t requested =
      if 1 ≤ requested ∧ requested ≤ t.largestBuffer then requested else t.usualBuffer := by
  cases t with
  | tcp => exact within_eq ..
  | udp => exact within_eq ..

theorem bufferSize_bounds (t : Transport) (requested : UInt64) :
    1 ≤ bufferSize t requested ∧ bufferSize t requested ≤ t.largestBuffer := by
  cases t with
  | tcp => exact within_bounds (by decide) requested
  | udp => exact within_bounds (by decide) requested

end Limits

namespace Engine

/-- The size of the buffer of a probe that was asked for one size after the other. -/
structure Sized (t : Transport) (requests : List UInt64) (size : UInt64) : Prop where
  within : 1 ≤ size ∧ size ≤ t.largestBuffer
  /-- The last request counts, if it is within the bounds. -/
  asked : ∀ last, requests.getLast? = some last →
    size = if 1 ≤ last ∧ last ≤ t.largestBuffer then last else t.usualBuffer
  unasked : requests = [] → size = t.usualBuffer

namespace ThroughputProbe

/-- The probe that is asked for one size after the other. -/
def withBufferSizes (p : ThroughputProbe) (requests : List UInt64) : ThroughputProbe :=
  requests.foldl withBufferSize p

theorem withBufferSizes_append_singleton (p : ThroughputProbe) (requests : List UInt64)
    (last : UInt64) :
    p.withBufferSizes (requests ++ [last]) = (p.withBufferSizes requests).withBufferSize last := by
  rw [withBufferSizes, List.foldl_append]
  rfl

/-- No request changes the transport, and the size is as the requests say. -/
theorem sized (t : Transport) (requests : List UInt64) :
    ((standard t).withBufferSizes requests).transport = t ∧
      Sized t requests ((standard t).withBufferSizes requests).bufferSize := by
  -- From the end, since the last request alone decides.
  induction requests using List.reverseRecOn with
  | nil =>
    have hstandard : Limits.bufferSize t 0 = t.usualBuffer := Limits.bufferSize_eq t 0
    exact ⟨rfl, Limits.bufferSize_bounds t 0, nofun, fun _ => hstandard⟩
  | append_singleton requests last ih =>
    rw [withBufferSizes_append_singleton, withBufferSize, ih.1]
    refine ⟨rfl, Limits.bufferSize_bounds t last, fun last' hlast => ?_, fun hnil => ?_⟩
    · rw [List.getLast?_concat] at hlast
      obtain rfl := Option.some.inj hlast
      exact Limits.bufferSize_eq t last
    · exact absurd hnil (List.append_ne_nil_of_right_ne_nil _ (List.cons_ne_nil _ _))

end ThroughputProbe

/-! ### The stream -/

/-- What the stream of a source has taken in all, and whether its sink is gone. -/
structure Outflow where
  total : Nat
  gone : Bool

namespace Outflow

/-- What a stream may say of a write: it takes no more than it is offered, and it takes nothing only
if it is offered nothing or its sink is gone. -/
def Allows (o : Outflow) : (q : Request) → q.Answer → Prop
  | .host (.wire (.write data _)), (Timed.ready count : Timed Nat) =>
    count ≤ data.size ∧ (count = 0 → data.size = 0 ∨ o.gone)
  | _, _ => True

/-- What a source is answered. -/
def Answered (o : Outflow) (q : Request) (answer : q.Answer) (o' : Outflow) : Prop :=
  o.Allows q answer ∧ o' = { o with total := o.total + q.taken answer }

theorem Answered.clock {o : Outflow} (now : Nat) : o.Answered (.host (.wire .clock)) now o :=
  ⟨trivial, rfl⟩

theorem Answered.takes {o : Outflow} {data : ByteArray} {limit count : Nat}
    (within : count ≤ data.size) (zero : count = 0 → data.size = 0 ∨ o.gone) :
    o.Answered (.host (.wire (.write data limit))) (Timed.ready count)
      { o with total := o.total + count } :=
  ⟨⟨within, zero⟩, rfl⟩

/-- The sink may go at any time, so the stream may take nothing of any write. -/
def Drifts (o o' : Outflow) : Prop := o' = { o with gone := true }

end Outflow

/-! ### The source -/

/-- Where a source is in its sending; there are `turns` more after this one. -/
inductive Sender where
  | finished (sent : UInt64)
  /-- Before the look at the clock that decides whether there is another write. -/
  | looking (turns offset : Nat) (sent : UInt64)
  /-- Before the write of what the buffer has from the offset on. -/
  | writing (turns offset : Nat) (sent : UInt64)
  /-- The stream has failed; before the report of it. -/
  | failing (sent : UInt64) (cause : String)

namespace Sender

/-- What the source has counted. -/
def sent : Sender → UInt64
  | finished sent | looking _ _ sent | writing _ _ sent | failing sent _ => sent

/-- The place in the buffer where the next write starts, if there may be one. -/
def offset? : Sender → Option Nat
  | looking _ offset _ | writing _ offset _ => some offset
  | finished _ | failing _ _ => none

/-- The state before a turn, if there is one. -/
def before : Nat → Nat → UInt64 → Sender
  | 0, _, sent => finished sent
  | turns + 1, offset, sent => looking turns offset sent

/-- What is said of a stream that takes nothing. -/
def closed : String := "sink closed the connection"

variable (buffer : ByteArray) (deadline : Nat)

/-- What comes of a write. -/
def onWrite (turns offset : Nat) (sent : UInt64) : Timed Nat → Sender
  | .ready 0 => failing sent closed
  | .ready (more + 1) =>
    before turns ((offset + (more + 1)) % buffer.size) (sent + UInt64.ofNat (more + 1))
  | .failed cause => failing sent cause
  | .expired => finished sent

/-- What the source asks, and where an answer leads. -/
def view : Sender → Option ((q : Request) × (q.Answer → Sender))
  | finished _ => none
  | looking turns offset sent => some ⟨.host (.wire .clock), fun (now : Nat) =>
      if deadline ≤ now then finished sent else writing turns offset sent⟩
  | writing turns offset sent => some
      ⟨.host (.wire (.write (buffer.extract offset buffer.size) deadline)),
        onWrite buffer turns offset sent⟩
  | failing sent cause =>
      some ⟨.report (.cutShort .tcpThroughput ⟨.transport, cause⟩), fun _ => finished sent⟩

/-- What is left of the sending when the stream has failed. -/
def giveUp (sent : UInt64) (cause : String) : Run UInt64 := do
  Run.report (.cutShort .tcpThroughput ⟨.transport, cause⟩)
  pure sent

/-- What is left of the sending when a write has ended. -/
def afterWrite (turns offset : Nat) (sent : UInt64) : Timed Nat → Run UInt64
  | .ready 0 => giveUp sent closed
  | .ready (more + 1) =>
    Run.sendStream buffer deadline turns ((offset + (more + 1)) % buffer.size)
      (sent + UInt64.ofNat (more + 1))
  | .failed cause => giveUp sent cause
  | .expired => pure sent

/-- What is left of the sending. -/
def rest : Sender → Run UInt64
  | finished sent => pure sent
  | looking turns offset sent => Run.sendStream buffer deadline (turns + 1) offset sent
  | writing turns offset sent => do
    afterWrite buffer deadline turns offset sent
      (← Run.talk (Talk.write (buffer.extract offset buffer.size) deadline))
  | failing sent cause => giveUp sent cause

theorem rest_before (turns offset : Nat) (sent : UInt64) :
    (before turns offset sent).rest buffer deadline =
      Run.sendStream buffer deadline turns offset sent := by
  cases turns <;> rfl

theorem rest_onWrite (turns offset : Nat) (sent : UInt64) (answer : Timed Nat) :
    (onWrite buffer turns offset sent answer).rest buffer deadline =
      afterWrite buffer deadline turns offset sent answer := by
  cases answer with
  | ready count =>
    cases count with
    | zero => rfl
    | succ more => exact rest_before buffer deadline turns _ _
  | failed cause => rfl
  | expired => rfl

/-- The source asks in its place what is left of the sending asks. -/
theorem rest_of_view {s : Sender} {q : Request} {next : q.Answer → Sender}
    (hview : s.view buffer deadline = some ⟨q, next⟩) :
    s.rest buffer deadline = .ask q fun answer => (next answer).rest buffer deadline := by
  cases s with
  | finished sent => cases hview
  | looking turns offset sent =>
    cases hview
    refine congrArg (Dialogue.ask _) (funext fun (now : Nat) => ?_)
    change (if deadline ≤ now then pure sent else _) =
      (if deadline ≤ now then finished sent else writing turns offset sent).rest buffer deadline
    split
    · rfl
    · refine congrArg (Dialogue.ask _) (funext fun (answer : Timed Nat) => ?_)
      cases answer with
      | ready count => cases count <;> rfl
      | failed cause => rfl
      | expired => rfl
  | writing turns offset sent =>
    cases hview
    refine congrArg (Dialogue.ask _) (funext fun answer => ?_)
    exact (rest_onWrite buffer deadline turns offset sent answer).symm
  | failing sent cause =>
    cases hview
    rfl

theorem rest_of_view_none {s : Sender} (hview : s.view buffer deadline = none) :
    s.rest buffer deadline = .done s.sent := by
  cases s with
  | finished sent => rfl
  | looking | writing | failing => cases hview

/-- An answer leads from place to place. -/
theorem exists_of_turn {W : Type} {answers : Answers W Request.Answer} {w w' : W} {s : Sender}
    {left : Run UInt64} (h : Dialogue.Turn answers (s.rest buffer deadline) w left w') :
    ∃ q next answer, s.view buffer deadline = some ⟨q, next⟩ ∧ answers w q answer w' ∧
      left = (next answer).rest buffer deadline := by
  refine Dialogue.exists_of_turn_view (fun s hview => ⟨s.sent, ?_⟩) (fun s q next hview => ?_) h
  · exact rest_of_view_none buffer deadline hview
  · exact rest_of_view buffer deadline hview

/-- The counter and the offset of a source agree with what the stream has taken of a buffer of a
size. The counter has 64 bits. -/
structure InStep (size total : Nat) (s : Sender) : Prop where
  sent : s.sent = UInt64.ofNat total
  offset : ∀ offset, s.offset? = some offset → offset < size ∧ offset = total % size

variable {buffer : ByteArray} {deadline : Nat} {size total : Nat} {s : Sender}

/-- As long as it does not overflow, the counter is what the stream has taken. -/
theorem InStep.toNat_sent (h : s.InStep size total) (hfits : total < UInt64.size) :
    s.sent.toNat = total := by
  rw [h.sent]
  exact UInt64.toNat_ofNat_of_lt' hfits

theorem inStep_before (hsize : 0 < size) (turns total : Nat) :
    (before turns (total % size) (UInt64.ofNat total)).InStep size total := by
  cases turns with
  | zero => exact ⟨rfl, nofun⟩
  | succ turns =>
    refine ⟨rfl, fun offset hoffset => ?_⟩
    obtain rfl := Option.some.inj hoffset
    exact ⟨Nat.mod_lt _ hsize, rfl⟩

theorem inStep_onWrite (hsize : 0 < buffer.size) {turns offset : Nat} {sent : UInt64}
    (h : (writing turns offset sent).InStep buffer.size total) (answer : Timed Nat)
    (data : ByteArray) (limit : Nat) :
    (onWrite buffer turns offset sent answer).InStep buffer.size
      (total + (Wire.write data limit).taken answer) := by
  obtain ⟨rfl, hoffset⟩ := h
  obtain ⟨-, rfl⟩ := hoffset offset rfl
  cases answer with
  | ready count =>
    cases count with
    | zero => exact ⟨rfl, nofun⟩
    | succ more =>
      -- The offset was reduced before, the total never is.
      have hnext := inStep_before hsize turns (total + (more + 1))
      rw [← Nat.mod_add_mod, UInt64.ofNat_add] at hnext
      exact hnext
  | failed cause => exact ⟨rfl, nofun⟩
  | expired => exact ⟨rfl, nofun⟩

/-- Whatever it is answered, a source stays in step with the stream. -/
theorem inStep_of_answered (hsize : 0 < buffer.size) {q : Request} {next : q.Answer → Sender}
    (hview : s.view buffer deadline = some ⟨q, next⟩) (h : s.InStep buffer.size total) :
    ∀ answer : q.Answer, (next answer).InStep buffer.size (total + q.taken answer) := by
  cases s with
  | finished sent => cases hview
  | looking turns offset sent =>
    cases hview
    intro (now : Nat)
    change (if deadline ≤ now then finished sent else writing turns offset sent).InStep
      buffer.size total
    split
    · exact ⟨h.sent, nofun⟩
    · exact ⟨h.sent, h.offset⟩
  | writing turns offset sent =>
    cases hview
    exact fun answer => inStep_onWrite hsize h answer _ _
  | failing sent cause =>
    cases hview
    exact fun _ => ⟨h.sent, nofun⟩

/-- At every moment of the sending the source is in one of its places, in step with the stream. -/
theorem exists_of_reaches (hsize : 0 < buffer.size) {turns : Nat} {gone : Bool} {left : Run UInt64}
    {o : Outflow} (h : (Run.sendStream buffer deadline turns 0 0).Reaches Outflow.Answered
      Outflow.Drifts ⟨0, gone⟩ left o) :
    ∃ s : Sender, left = s.rest buffer deadline ∧ s.InStep buffer.size o.total := by
  induction h with
  | start =>
    have hstart := inStep_before hsize turns 0
    rw [Nat.zero_mod] at hstart
    exact ⟨_, (rest_before buffer deadline turns 0 0).symm, hstart⟩
  | turn before turn ih =>
    obtain ⟨s, rfl, hs⟩ := ih
    obtain ⟨q, next, answer, hview, ⟨-, rfl⟩, rfl⟩ := exists_of_turn buffer deadline turn
    exact ⟨next answer, rfl, inStep_of_answered hsize hview hs answer⟩
  | drift before drift ih =>
    obtain ⟨s, rfl, hs⟩ := ih
    obtain rfl := drift
    exact ⟨s, rfl, hs⟩

end Sender

/-! ### Writes -/

/-- What holds when a source is about to write, and the stream is like that. -/
structure Offers (buffer : ByteArray) (o : Outflow) (data : ByteArray) (limit : Nat)
    (next : Timed Nat → Run UInt64) : Prop where
  /-- The source offers what the buffer has behind all that was taken. -/
  rest : data = buffer.extract (o.total % buffer.size) buffer.size
  nonempty : 0 < data.size
  /-- What the stream takes ends within the buffer. -/
  within : ∀ count o', o.Answered (.host (.wire (.write data limit))) (Timed.ready count) o' →
    o.total % buffer.size + count ≤ buffer.size
  /-- The stream takes nothing only if its sink is gone. -/
  gone : ∀ o', o.Answered (.host (.wire (.write data limit))) (Timed.ready 0) o' → o.gone
  /-- Then the source says so, and it has counted what was taken before. -/
  ends : next (.ready 0) = Sender.giveUp (UInt64.ofNat o.total) Sender.closed

theorem Sender.offers {buffer data : ByteArray} {deadline limit : Nat} {s : Sender} {o : Outflow}
    {next : Timed Nat → Run UInt64} (h : s.InStep buffer.size o.total)
    (hrest : s.rest buffer deadline = .ask (.host (.wire (.write data limit))) next) :
    Offers buffer o data limit next := by
  cases s with
  | finished sent => cases hrest
  | looking turns offset sent => cases hrest
  | failing sent cause => cases hrest
  | writing turns offset sent =>
    cases hrest
    obtain ⟨rfl, hoffset⟩ := h
    obtain ⟨hless, rfl⟩ := hoffset offset rfl
    have hdata : (buffer.extract (o.total % buffer.size) buffer.size).size =
        buffer.size - o.total % buffer.size := by
      rw [ByteArray.size_extract, Nat.min_self]
    have hpos : 0 < buffer.size - o.total % buffer.size := Nat.sub_pos_of_lt hless
    constructor
    case rest => rfl
    case nonempty => exact hdata ▸ hpos
    case within =>
      rintro count o' ⟨⟨hcount, -⟩, -⟩
      omega
    case gone =>
      rintro o' ⟨⟨-, hzero⟩, -⟩
      exact (hzero rfl).resolve_left (by omega)
    case ends => rfl

namespace ThroughputProbe

/-- **Every write has something to write**. Whatever sizes a probe was asked for, its buffer has one
byte at least and is not larger than its transport allows. Whatever the stream takes of the writes,
the offset of the source is what was taken in all modulo the size of the buffer, the counter of the
source is what was taken in all, and what is offered is not empty, so nothing is taken of it only if
the sink is gone. -/
theorem writes_in_step (t : Transport) (requests : List UInt64) :
    let p := (standard t).withBufferSizes requests
    let buffer := filled p.bufferSize.toNat transferFiller
    p.transport = t ∧ Sized t requests p.bufferSize ∧
    buffer.size = p.bufferSize.toNat ∧ 0 < buffer.size ∧
    ∀ deadline turns gone left o,
      (Run.sendStream buffer deadline turns 0 0).Reaches Outflow.Answered Outflow.Drifts
        ⟨0, gone⟩ left o →
      (∃ s : Sender, left = s.rest buffer deadline ∧ s.InStep buffer.size o.total ∧
        (o.total < UInt64.size → s.sent.toNat = o.total)) ∧
      ∀ data limit next, left = .ask (.host (.wire (.write data limit))) next →
        Offers buffer o data limit next := by
  intro p buffer
  obtain ⟨htransport, hsized⟩ := sized t requests
  have hbuffer : buffer.size = p.bufferSize.toNat := size_filled _ _
  have hpos : 0 < buffer.size := by
    rw [hbuffer]
    exact UInt64.le_iff_toNat_le.1 hsized.within.1
  refine ⟨htransport, hsized, hbuffer, hpos, fun deadline turns gone left o h => ?_⟩
  obtain ⟨s, rfl, hs⟩ := Sender.exists_of_reaches hpos h
  exact ⟨⟨s, rfl, hs, hs.toNat_sent⟩, fun data limit next hasks => Sender.offers hs hasks⟩

section ThirdByte

/-- At some moment of the sending of three bytes this is left of it, and the stream is like that. -/
def Meets (left : Run UInt64) (o : Outflow) : Prop :=
  (Run.sendStream (filled 3 transferFiller) 5 3 0 0).Reaches Outflow.Answered Outflow.Drifts
    ⟨0, false⟩ left o

/-- The stream takes two of the bytes and loses its sink; the source is about to write the third. -/
theorem meets_third_byte :
    ∃ next, Meets (.ask (.host (.wire (.write ⟨#[transferFiller]⟩ 5))) next) ⟨2, true⟩ := by
  have begun : Meets _ ⟨0, false⟩ := .start
  have looked : Meets _ ⟨0, false⟩ := Dialogue.Reaches.ask begun (.clock 0)
  have written : Meets _ ⟨2, false⟩ :=
    Dialogue.Reaches.ask looked (@Outflow.Answered.takes _ _ _ 2 (by decide) nofun)
  have gone : Meets _ ⟨2, true⟩ := .drift written rfl
  have again : Meets _ ⟨2, true⟩ := Dialogue.Reaches.ask gone (.clock 0)
  exact ⟨_, again⟩

theorem writes_in_step_third_byte :
    ((standard .tcp).withBufferSizes [0, 2000000, 3]).bufferSize = 3 ∧
    ∃ left next, Meets left ⟨2, true⟩ ∧
      left = .ask (.host (.wire (.write ⟨#[transferFiller]⟩ 5))) next ∧
      (∃ s : Sender, left = s.rest (filled 3 transferFiller) 5 ∧ s.InStep 3 2 ∧ s.sent.toNat = 2) ∧
      Offers (filled 3 transferFiller) ⟨2, true⟩ ⟨#[transferFiller]⟩ 5 next := by
  obtain ⟨next, h⟩ := meets_third_byte
  obtain ⟨-, -, -, -, hmoments⟩ := writes_in_step .tcp [0, 2000000, 3]
  obtain ⟨⟨s, hs, hstep, hsent⟩, hwrites⟩ := hmoments 5 3 false _ _ h
  exact ⟨rfl, _, next, h, rfl, ⟨s, hs, hstep, hsent (by decide)⟩, hwrites _ _ _ rfl⟩

end ThirdByte

end ThroughputProbe

end Engine

end LoopGauge
