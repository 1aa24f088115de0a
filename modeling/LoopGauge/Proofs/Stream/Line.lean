import LoopGauge.Proofs.Stream.Caller
import LoopGauge.Proofs.Stream.Pipe
import LoopGauge.Proofs.Stream.Responder

/-!
# A line between client and server

Client and server with a stream between them, which may cut and delay what it conveys. Whatever else
either of them asks may be answered in any way: the clocks may show anything, and the stop flag may
be raised at any time.

## Main definitions

* `Line`: the stream, and what is left of the work of the server.
* `Line.Answered`: what the client is answered.
* `Line.Serves`: the server goes on.
-/

namespace LoopGauge.Engine

/-- The stream from the client to the server and back, and what is left of the work of the
server. -/
structure Line where
  server : Work UInt64
  forth : Pipe := {}
  back : Pipe := {}

namespace Line

/-- A line on which nothing has been said, to a server that echoes in pieces of a size. -/
def quiet (size : Nat) : Line := { server := Task.serve ⟨.tcp, .echo, size⟩ }

/-- What the client is answered. -/
inductive Answered : Line → (q : Request) → q.Answer → Line → Prop where
  | wire {l : Line} {w : Wire} {answer : w.Answer} {forth back : Pipe}
      (conveys : Pipe.Conveys l.forth l.back w answer forth back) :
      Answered l (.host (.wire w)) answer { l with forth := forth, back := back }
  | other {l : Line} {q : Request} (apart : ∀ w, q ≠ .host (.wire w)) (answer : q.Answer) :
      Answered l q answer l

/-- A question of the server is answered. -/
inductive Serves : Line → Line → Prop where
  | wire {l : Line} {w : Wire} {next : w.Answer → Work UInt64} {answer : w.Answer}
      {forth back : Pipe} (asks : l.server = .ask (.wire w) next)
      (conveys : Pipe.Conveys l.back l.forth w answer back forth) :
      Serves l ⟨next answer, forth, back⟩
  | other {l : Line} {q : Duty} {next : q.Answer → Work UInt64}
      (asks : l.server = .ask q next) (apart : ∀ w, q ≠ .wire w) (answer : q.Answer) :
      Serves l { l with server := next answer }

variable {l l' : Line}

theorem answered_wire {w : Wire} {answer : w.Answer}
    (h : Answered l (.host (.wire w)) answer l') :
    l'.server = l.server ∧ Pipe.Conveys l.forth l.back w answer l'.forth l'.back := by
  cases h with
  | wire conveys => exact ⟨rfl, conveys⟩
  | other apart _ => exact absurd rfl (apart w)

theorem answered_clock {now : Nat} (h : Answered l (.host (.wire .clock)) now l') : l' = l := by
  cases h with
  | wire conveys =>
    obtain ⟨rfl, rfl⟩ := Pipe.conveys_clock conveys
    rfl
  | other _ _ => rfl

/-- The client is answered by the stream, which leaves the server and what it has read and written
as they are. -/
theorem Answered.frame {q : Request} {answer : q.Answer} (h : Answered l q answer l') :
    l'.server = l.server ∧ l'.forth.read = l.forth.read ∧ l'.back.written = l.back.written := by
  cases h with
  | wire conveys => exact ⟨rfl, conveys.read_out, conveys.written_inp⟩
  | other _ _ => exact ⟨rfl, rfl, rfl⟩

/-- The server leaves what the client has read and written as it is. -/
theorem Serves.frame (h : Serves l l') :
    l'.back.read = l.back.read ∧ l'.forth.written = l.forth.written := by
  cases h with
  | wire asks conveys => exact ⟨conveys.read_out, conveys.written_inp⟩
  | other _ _ _ => exact ⟨rfl, rfl⟩

end Line

end LoopGauge.Engine
