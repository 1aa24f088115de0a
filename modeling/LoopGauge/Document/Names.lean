import LoopGauge.Json.Record
import LoopGauge.Log.Level
import LoopGauge.Span
import LoopGauge.SubTest

/-!
# Documents of names and spans

Sub-tests, transports and levels go by their names; a span is a record of seconds and nanoseconds.
-/

namespace LoopGauge.Document

open Json

def subTest : Codec SubTest := .choice SubTest.name SubTest.ofName?

/-- The transport of a name in documents. -/
def transportOf? (s : String) : Option Transport :=
  [Transport.tcp, Transport.udp].find? (·.key = s)

def transport : Codec Transport := .choice Transport.key transportOf?

def level : Codec Log.Level := .choice Log.Level.key Log.Level.ofKey?

/-- Seconds and nanoseconds, not yet known to make a span. -/
structure SpanParts where
  seconds : Nat := 0
  nanos : Nat := 0

/-- The fields of a span. The nanoseconds may reach seconds. -/
def spanFields : List (Member SpanParts) := [
  .of "secs" (.natUpTo Number.wordLimit) (·.seconds) (fun p n => { p with seconds := n }) .refused,
  .of "nanos" (.natUpTo (4294967295)) (·.nanos) (fun p n => { p with nanos := n }) .refused]

/-- A span; keys that do not belong to it are refused. -/
def span : Codec Span where
  write s := .object (entriesOf spanFields ⟨s.seconds, s.subsecond⟩)
  read := Decoder.finishedRecord {} spanFields .refused fun p => Span.ofParts? p.seconds p.nanos

end LoopGauge.Document
