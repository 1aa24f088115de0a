import LoopGauge.Document.Names
import LoopGauge.Log.Entry
import LoopGauge.Time.Stamp

/-!
# Documents of log records

A log record as a record of its parts. Which operation it belongs to and where it was made may be
left out.
-/

namespace LoopGauge.Document

open Json

/-- A timestamp. -/
def moment : Codec Time.Moment where
  write m := .text m.full
  read := Decoder.text.filterMap Time.Stamp.read?

def locationFields : List (Member Log.Location) := [
  .of "file" .text (·.file) (fun l v => { l with file := v }) .refused,
  .of "line" (.natUpTo (4294967295)) (·.line) (fun l v => { l with line := v }) .refused,
  .of "module" (.optional .text) (·.module) (fun l v => { l with module := v }) .whereNamed]

def location : Codec Log.Location := .record {} locationFields .skimmed

def entryFields : List (Member Log.Entry) := [
  .of "timestamp" moment (·.moment) (fun e v => { e with moment := v }) .refused,
  .of "level" level (·.level) (fun e v => { e with level := v }) .refused,
  .of "message" .text (·.message) (fun e v => { e with message := v }) .refused,
  .of "logger" .text (·.logger) (fun e v => { e with logger := v }) .refused,
  .of "correlation_id" (.optional .text) (·.correlation) (fun e v => { e with correlation := v })
    .whereNamed,
  .of "fields" .anyObject (·.fields) (fun e v => { e with fields := v }) .refused,
  .of "location" (.optional location) (·.location) (fun e v => { e with location := v })
    .whereNamed]

def entry : Codec Log.Entry := .record { moment := ⟨0, 0⟩ } entryFields .skimmed

end LoopGauge.Document
