import LoopGauge.Document.Entry
import LoopGauge.Log.Context
import LoopGauge.Log.Draft
import LoopGauge.Settings.Basic
import LoopGauge.Stream
import LoopGauge.Text.Columns

/-!
# Loggers

A logger decides which records are written, in which form, and to which stream. Records that warn
go to standard error, and so does everything if standard output is kept for a document.

## Main definitions

* `Logger`: the decisions of a logger.
* `Logger.line`: a record as one of three kinds of line.
* `Logger.write`: the stream and the line of a draft, if it is written.
-/

namespace LoopGauge.Log

open Text

/-- The form in which records are written. -/
inductive Format where
  /-- For readers at a terminal. -/
  | console
  /-- As a document. -/
  | json
  /-- With the message alone. -/
  | compact
deriving DecidableEq, Repr

/-- The decisions of a logger. -/
structure Logger where
  name : String
  minLevel : Level := .info
  useColour : Bool := true
  showLocation : Bool := false
  /-- Whether nothing goes to standard output. -/
  errorOnly : Bool := false
  format : Format := .console
deriving DecidableEq, Repr

namespace Logger

/-- The logger of a caller who asks for none: warnings and worse, without colour. -/
def quiet (name : String) : Logger := { name := name, minLevel := .warn, useColour := false }

/-- The logger that settings ask for. -/
def ofSettings (name : String) (s : Settings) : Logger where
  name := name
  minLevel := if s.debug then .debug else if s.verbose then .info else .warn
  useColour := s.enableColour
  showLocation := s.debug
  errorOnly := s.json
  format := if s.debug then .json else if s.json then .compact else .console

/-- Whether a record of this level is written. -/
def admits (l : Logger) (level : Level) : Bool := level.atLeast l.minLevel

/-- The stream for a record of this level. -/
def stream (l : Logger) (level : Level) : Stream :=
  if l.errorOnly || level.atLeast .warn then .error else .output

/-- The record of a draft: the context is added to it. -/
def entry (l : Logger) (c : Context) (moment : Time.Moment) (d : Draft) : Entry where
  moment := moment
  level := d.level
  message := d.message
  logger := l.name
  correlation := d.correlation.or c.operation
  fields := c.complete d.fields
  location := d.location

/-- The name of a level, five characters wide. -/
def levelText (l : Logger) (level : Level) : String :=
  let text := padStart 5 level.name
  if l.useColour then level.colourSequence ++ text ++ Level.resetSequence else text

/-- The first eight characters of an identifier. -/
def short (id : String) : String := String.ofList (id.toList.take 8)

/-- Fields between braces, in the order of their texts. -/
def fieldsText (fields : List (String × Json.Value)) : String :=
  let texts := fields.map fun (key, value) => key ++ "=" ++ value.compactText
  "\x7b" ++ join ", " (texts.mergeSort (fun a b => decide (a ≤ b))) ++ "\x7d"

/-- A record for a terminal. -/
def consoleLine (l : Logger) (e : Entry) : String :=
  e.moment.forConsole ++ " " ++ l.levelText e.level ++ " [" ++ e.logger ++ "] " ++ e.message ++
    (match e.correlation with
      | some id => " [" ++ short id ++ "]"
      | none => "") ++
    (if e.fields.isEmpty then "" else " " ++ fieldsText e.fields) ++
    (match l.showLocation, e.location with
      | true, some place => " @ " ++ place.file ++ ":" ++ Number.decimal place.line
      | _, _ => "")

/-- A record with its message alone. -/
def compactLine (e : Entry) : String :=
  e.moment.clock ++ " " ++ String.singleton e.level.initial ++ " " ++ e.logger ++ ": " ++ e.message

/-- A record in the form of the logger. -/
def line (l : Logger) (e : Entry) : String :=
  match l.format with
  | .console => l.consoleLine e
  | .json => Document.entry.encode e
  | .compact => compactLine e

/-- The stream and the line of a draft, if it is written. -/
def write (l : Logger) (c : Context) (moment : Time.Moment) (d : Draft) :
    Option (Stream × String) :=
  if l.admits d.level then some (l.stream d.level, l.line (l.entry c moment d)) else none

end Logger

end LoopGauge.Log
