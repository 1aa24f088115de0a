import LoopGauge.Log.Draft
import LoopGauge.Proofs.History
import LoopGauge.Proofs.Json.Keys

/-!
# What a draft is told

Whoever drafts a record tells it one detail after the other. Of several values for one key the last
stays, and so does the last operation and the last place; otherwise the order does not matter.

## Main definitions

* `Detail`: what a draft is told.
* `drafted`: the draft after all details.

## Main statements

* `drafted_eq`: what the draft then holds.
* `drafted_rearranged`: fields of different keys may change places.
-/

namespace LoopGauge.Log

open Json

namespace Draft

/-- Fields that are added one after the other go into the map, and nothing else changes. -/
theorem withFields_eq (d : Draft) (fields : List (String × Value)) :
    d.withFields fields =
      { d with fields := fields.foldl (fun fields e => insertKey e.1 e.2 fields) d.fields } := by
  induction fields generalizing d with
  | nil => rfl
  | cons e es ih => exact ih (d.withField e.1 e.2)

theorem correlation_withFields (d : Draft) (fields : List (String × Value)) :
    (d.withFields fields).correlation = d.correlation := by
  rw [withFields_eq]

end Draft

/-- What a draft is told. -/
inductive Detail where
  | correlation (id : String)
  | field (key : String) (value : Value)
  | location (l : Location)
  | latency (r : LatencyResult)
  | throughput (r : ThroughputResult)
  | fault (f : Fault)

namespace Detail

def fields : Detail → List (String × Value)
  | correlation _ | location _ => []
  | field key value => [(key, value)]
  | latency r => Draft.latencyFields r
  | throughput r => Draft.throughputFields r
  | fault f => Draft.faultFields f

def correlation? : Detail → Option String
  | correlation id => some id
  | _ => none

def location? : Detail → Option Location
  | location l => some l
  | _ => none

end Detail

def Draft.told (d : Draft) : Detail → Draft
  | .correlation id => d.withCorrelation id
  | .field key value => d.withField key value
  | .location l => d.withLocation l
  | .latency r => d.withLatency r
  | .throughput r => d.withThroughput r
  | .fault f => d.withFault f

/-- A new draft after all details, in their order. -/
def drafted (level : Level) (message : String) (details : List Detail) : Draft :=
  details.foldl Draft.told { level := level, message := message }

variable {level : Level} {message : String} {details details' : List Detail}

theorem told_eq (d : Draft) (x : Detail) :
    d.told x = { d with
      correlation := x.correlation?.or d.correlation
      fields := x.fields.foldl (fun fields e => insertKey e.1 e.2 fields) d.fields
      location := x.location?.or d.location } := by
  cases x with
  | correlation | field | location => rfl
  | latency | throughput | fault => exact Draft.withFields_eq d _

/-- What a draft holds after all details: of each kind the last. -/
theorem drafted_eq (level : Level) (message : String) (details : List Detail) :
    drafted level message details =
      { level := level
        message := message
        correlation := (details.filterMap Detail.correlation?).getLast?
        fields := sortKeys (details.flatMap Detail.fields)
        location := (details.filterMap Detail.location?).getLast? } := by
  induction details using List.reverseRecOn with
  | nil => rfl
  | append_singleton details x ih =>
    rw [drafted, List.foldl_concat, ← drafted, ih, told_eq]
    simp only [List.flatMap_append, List.flatMap_singleton, sortKeys_append,
      getLast?_filterMap_concat]

/-- Fields of different keys may change places. -/
theorem drafted_rearranged (h : Rearranged Detail.fields details details') :
    drafted level message details = drafted level message details' := by
  have hcorrelation := h.filterMap_eq (f := Detail.correlation?) fun x hx => by
    cases x with
    | correlation => exact absurd rfl hx
    | _ => rfl
  have hlocation := h.filterMap_eq (f := Detail.location?) fun x hx => by
    cases x with
    | location => exact absurd rfl hx
    | _ => rfl
  rw [drafted_eq, drafted_eq, hcorrelation, hlocation, h.sortKeys_eq]

end LoopGauge.Log
