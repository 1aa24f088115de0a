import LoopGauge.Proofs.Stream.Pipe
import LoopGauge.Proofs.Transfer.Ledger
import Mathlib.Algebra.GroupWithZero.Nat

/-!
# Traffic between source and sink

Source and sink with a network between them: a stream, which cuts and delays what it conveys and may
break, and datagrams, which may be lost or overtake one another but are delivered once at most. The
task may be lost at any time, and what it has counted is lost with it. Nobody else sends anything to
the sink, and a write that fails or is late hands over nothing. Whatever else either of them asks
may be answered in any way.

## Main definitions

* `Traffic`: the network, and what is left of the work of the task.
* `Traffic.Answered`: what the source is answered.
* `Traffic.Drifts`: what happens besides.
-/

namespace LoopGauge.Engine

/-- The network between source and sink, and what is left of the work of the task, if there is
one. -/
structure Traffic where
  task : Option (Work UInt64) := none
  stream : Pipe := {}
  /-- The datagrams under way. -/
  air : List ByteArray := []
  /-- How many bytes the source has handed over. -/
  handed : Nat := 0
  /-- How many bytes were brought to the task. -/
  counted : Nat := 0
  /-- How many bytes were lost, under way or with a task. -/
  dropped : Nat := 0

namespace Traffic

/-- How many bytes are under way. -/
def inFlight (t : Traffic) : Nat := t.stream.inFlight.length + (t.air.map ByteArray.size).sum

/-- Whether a question is about the task. -/
def ConcernsTask : Request → Prop
  | .host (.launch _) | .host .join => True
  | _ => False

/-- What the source is answered. -/
inductive Answered : Traffic → (q : Request) → q.Answer → Traffic → Prop where
  /-- The stream takes the first bytes of what is written. -/
  | write {t : Traffic} {data : ByteArray} {deadline count : Nat} (within : count ≤ data.size) :
      Answered t (.host (.wire (.write data deadline))) (Timed.ready count)
        { t with
          stream := t.stream.write ((bytesOf data).take count)
          handed := t.handed + count }
  /-- The first bytes of a datagram are sent. -/
  | send {t : Traffic} {data : ByteArray} {peer : Address} {count : Nat}
      (within : count ≤ data.size) :
      Answered t (.host (.wire (.send data peer))) (Except.ok count)
        { t with air := t.air ++ [data.extract 0 count], handed := t.handed + count }
  /-- A task takes the place of the one before. -/
  | launch {t : Traffic} {task : Task} :
      Answered t (.host (.launch task)) ()
        { t with task := some task.serve, counted := 0, dropped := t.dropped + t.counted }
  | join {t : Traffic} {total : UInt64} (finished : t.task = some (.done total)) :
      Answered t (.host .join) (some total) t
  | joinLost {t : Traffic} (lost : t.task = none) : Answered t (.host .join) none t
  | vain {t : Traffic} {q : Request} {answer : q.Answer} (apart : ¬ConcernsTask q)
      (vain : q.taken answer = 0) : Answered t q answer t

/-- What happens besides: the task goes on or is lost, the stream is severed, a datagram is
dropped. -/
inductive Drifts : Traffic → Traffic → Prop where
  | read {t : Traffic} {size deadline : Nat} {next : Timed ByteArray → Work UInt64}
      {data : ByteArray} {stream : Pipe}
      (asks : t.task = some (.ask (.wire (.read size deadline)) next)) (within : data.size ≤ size)
      (brings : t.stream.Brings (bytesOf data) stream) :
      Drifts t { t with
        task := some (next (.ready data))
        stream := stream
        counted := t.counted + data.size }
  /-- Any datagram comes next. What does not fit is cut off. -/
  | receive {t : Traffic} {size deadline : Nat} {next : Timed (ByteArray × Address) → Work UInt64}
      {before after : List ByteArray} {data : ByteArray} {peer : Address}
      (asks : t.task = some (.ask (.wire (.receive size deadline)) next))
      (comes : t.air = before ++ data :: after) :
      Drifts t { t with
        task := some (next (.ready (data.extract 0 size, peer)))
        air := before ++ after
        counted := t.counted + (data.extract 0 size).size
        dropped := t.dropped + (data.size - (data.extract 0 size).size) }
  | idle {t : Traffic} {q : Duty} {next : q.Answer → Work UInt64} {answer : q.Answer}
      (asks : t.task = some (.ask q next)) (vain : q.brought answer = 0) :
      Drifts t { t with task := some (next answer) }
  | lose {t : Traffic} :
      Drifts t { t with task := none, counted := 0, dropped := t.dropped + t.counted }
  | sever {t : Traffic} :
      Drifts t { t with
        stream := { t.stream with inFlight := [] }
        dropped := t.dropped + t.stream.inFlight.length }
  | drop {t : Traffic} {before after : List ByteArray} {data : ByteArray}
      (comes : t.air = before ++ data :: after) :
      Drifts t { t with air := before ++ after, dropped := t.dropped + data.size }

variable {t t' : Traffic}

/-- All that was handed over was counted, is under way or was dropped. -/
def Conserves (t : Traffic) : Prop := t.handed = t.counted + t.inFlight + t.dropped

theorem Answered.conserves {q : Request} {answer : q.Answer} (h : Answered t q answer t')
    (ht : t.Conserves) : t'.Conserves := by
  unfold Conserves inFlight at *
  cases h with
  | @write data deadline count within =>
    have htaken : ((bytesOf data).take count).length = count := by
      rw [List.length_take, length_bytesOf]
      omega
    simp only [Pipe.write, List.length_append, htaken]
    omega
  | @send data peer count within =>
    have htaken : (data.extract 0 count).size = count := by
      rw [ByteArray.size_extract]
      omega
    simp only [List.map_append, List.map_cons, List.map_nil, List.sum_append, List.sum_cons,
      List.sum_nil, htaken]
    omega
  | launch =>
    dsimp only
    omega
  | join finished => exact ht
  | joinLost lost => exact ht
  | vain apart vain => exact ht

theorem Drifts.conserves (h : Drifts t t') (ht : t.Conserves) : t'.Conserves := by
  unfold Conserves inFlight at *
  cases h with
  | @read size deadline next data stream asks within brings =>
    have hflight := congrArg List.length brings.inFlight
    rw [List.length_append, length_bytesOf] at hflight
    dsimp only
    omega
  | @receive size deadline next before after data peer asks comes =>
    have hsize : (data.extract 0 size).size ≤ data.size := by
      rw [ByteArray.size_extract]
      omega
    simp only [comes, List.map_append, List.map_cons, List.sum_append, List.sum_cons] at ht ⊢
    omega
  | idle asks vain => exact ht
  | lose =>
    dsimp only
    omega
  | sever =>
    simp only [List.length_nil]
    omega
  | drop comes =>
    simp only [comes, List.map_append, List.map_cons, List.sum_append, List.sum_cons] at ht ⊢
    omega

/-- The network tells the source how many bytes it takes. -/
theorem Answered.handed {q : Request} {answer : q.Answer} (h : Answered t q answer t') :
    t'.handed = t.handed + q.taken answer := by
  cases h with
  | write within => rfl
  | send within => rfl
  | launch => rfl
  | join finished => rfl
  | joinLost lost => rfl
  | vain apart vain => rw [vain, Nat.add_zero]

theorem Drifts.handed (h : Drifts t t') : t'.handed = t.handed := by
  cases h <;> rfl

end Traffic

end LoopGauge.Engine
