import LoopGauge.Document.Names
import LoopGauge.Settings.Basic

/-!
# Documents of settings

Settings as a record. Every field may be left out and then has its default.

## Main definitions

* `settingsFields`: the fields.
* `bareSettings`: what a document stands for that leaves out all of them.
-/

namespace LoopGauge.Document

open Json

/-- The fields of settings. -/
def settingsFields : List (Member Settings) := [
  .of "budget_ms" .word (·.budgetMs) (fun s v => { s with budgetMs := v }) .allowed,
  .of "latency_message_size" .word (·.messageSize) (fun s v => { s with messageSize := v })
    .allowed,
  .of "throughput_buffer_size" .word (·.bufferSize) (fun s v => { s with bufferSize := v })
    .allowed,
  .of "max_latency_samples" .word (·.maxSamples) (fun s v => { s with maxSamples := v }) .allowed,
  .of "tests" (.list subTest) (·.tests) (fun s v => { s with tests := v }) .allowed,
  .of "enable_color" .flag (·.enableColour) (fun s v => { s with enableColour := v }) .allowed,
  .of "json" .flag (·.json) (fun s v => { s with json := v }) .allowed,
  .of "verbose" .flag (·.verbose) (fun s v => { s with verbose := v }) .allowed,
  .of "debug" .flag (·.debug) (fun s v => { s with debug := v }) .allowed]

/-- Settings of a document that has none of the fields: each has a default of its own there. -/
def bareSettings : Settings where
  budgetMs := Limits.defaultBudgetMillis
  messageSize := Limits.defaultMessageSize
  bufferSize := 0
  maxSamples := Limits.maxSamples
  tests := SubTest.all
  enableColour := true
  json := false
  verbose := false
  debug := false

def settings : Codec Settings := .record bareSettings settingsFields .skimmed

end LoopGauge.Document
