import LoopGauge.Engine.Wire

/-!
# Rounds

One round sends a message and waits for its echo. Over a stream the echo is as many bytes as were
sent. A datagram may be lost, late or from somebody else, so a message that has room for it starts
with the number of its round, and a reception that does not concern the round is passed over.

## Main definitions

* `Talk.streamRound`: a round over a stream.
* `Message`: a datagram of a round.
* `Talk.datagramRound`: a round with datagrams.
-/

namespace LoopGauge.Engine

/-- How often a loop turns at most that only its surroundings end. No clock gets that far. -/
def patience : Nat := Number.wordLimit

/-- Bytes that are all the same. -/
def filled (size : Nat) (filler : UInt8) : ByteArray := ⟨Array.replicate size filler⟩

/-- What is said if no echo has come within a limit. -/
def noEcho (limit : Span) : Fault := ⟨.timeout, "No echo within " ++ limit.brief⟩

/-- The filler of messages. -/
def messageFiller : UInt8 := 0x5a

/-- The bytes at the start of a datagram that carry the number of the round. -/
def tagLength : Nat := Limits.roundTagLength.toNat

/-- The number of a round in four bytes, the highest first. -/
def tagOf (round : Nat) : ByteArray :=
  let tag := UInt32.ofNat round
  ⟨#[(tag >>> 24).toUInt8, (tag >>> 16).toUInt8, (tag >>> 8).toUInt8, tag.toUInt8]⟩

/-- A datagram of a round: its size, and the tag with which it starts if there is room for one. -/
structure Message where
  size : Nat
  tag : Option ByteArray

namespace Message

def ofRound (size round : Nat) : Message :=
  ⟨size, if tagLength ≤ size then some (tagOf round) else none⟩

/-- The bytes that are sent. -/
def bytes (m : Message) : ByteArray :=
  match m.tag with
  | some tag => tag ++ filled (m.size - tagLength) messageFiller
  | none => filled m.size messageFiller

/-- Whether received bytes can be an echo of the message: they start with its tag. -/
def matchesTag (m : Message) (data : ByteArray) : Bool :=
  match m.tag with
  | some tag => tagLength ≤ data.size && (data.extract 0 tagLength).data == tag.data
  | none => true

/-- Whether a reception concerns the round of the message. -/
def concerns (m : Message) (server peer : Address) (data : ByteArray) : Bool :=
  peer == server && m.matchesTag data

end Message

namespace Talk

/-- A round over a stream: the whole message out, as many bytes back. -/
def streamRound (message : ByteArray) (deadline : Nat) : Talk (Timed ByteArray) := do
  match ← writeAll message deadline with
  | .ready () => readExact message.size deadline
  | .failed cause => pure (.failed cause)
  | .expired => pure .expired

/-- Waits for the echo of a message until the deadline, and passes over what does not concern it. -/
def awaitEcho (server : Address) (m : Message) (deadline : Nat) : Nat → Talk (Except Fault Unit)
  | 0 => pure (.error (noEcho (Span.ofMillis Limits.udpRoundMillis)))
  | turns + 1 => do
    let now ← clock
    if deadline ≤ now then
      pure (.error (noEcho (Span.ofMillis Limits.udpRoundMillis)))
    else
      match (← receive m.size deadline).received (Span.ofNanos (deadline - now)) with
      | .error fault => pure (.error fault)
      | .ok (data, peer) =>
        if !m.concerns server peer data then awaitEcho server m deadline turns
        else if data.size = m.size then pure (.ok ())
        else
          pure (.error ⟨.transport, "short echo: " ++ Number.decimal data.size ++ " of " ++
            Number.decimal m.size ++ " bytes"⟩)

/-- A round with datagrams. -/
def datagramRound (server : Address) (m : Message) : Talk (Except Fault Unit) := do
  let deadline := (← clock) + (Span.ofMillis Limits.udpRoundMillis).nanos
  match ← send m.bytes server with
  | .error cause => pure (.error ⟨.transport, "send failed: " ++ cause⟩)
  | .ok sent =>
    if sent = m.size then awaitEcho server m deadline patience
    else
      pure (.error ⟨.transport, "short send: " ++ Number.decimal sent ++ " of " ++
        Number.decimal m.size ++ " bytes"⟩)

end Talk

end LoopGauge.Engine
