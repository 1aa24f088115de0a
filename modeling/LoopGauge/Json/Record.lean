import LoopGauge.Json.Decoder
import LoopGauge.Json.Text

/-!
# Records and their fields

How a record is written and read. A record is written as an object of its fields in their fixed
order. It is read from an object, whose entries may come in any order and may include strangers,
or from a list of the fields in their fixed order.

## Main definitions

* `Codec α`: how an `α` is written and read.
* `Member ρ`: one field of a record `ρ`.
* `Codec.record`: a record made of its fields.
-/

namespace LoopGauge.Json

open Number

/-- How a type of value is written and read. -/
structure Codec (α : Type) where
  write : α → Value
  read : Decoder α

namespace Codec

variable {α : Type}

def word : Codec UInt64 := ⟨Value.ofWord, .word⟩
def flag : Codec Bool := ⟨.flag, .flag⟩
def real : Codec Binary64 := ⟨.real, .real⟩
def text : Codec String := ⟨.text, .text⟩

/-- A whole number up to a limit. -/
def natUpTo (limit : Nat) : Codec Nat := ⟨Value.ofNat, .natUpTo limit⟩

def list (c : Codec α) : Codec (List α) := ⟨fun xs => .array (xs.map c.write), .list c.read⟩

/-- A value or null. -/
def optional (c : Codec α) : Codec (Option α) :=
  ⟨Value.ofOption c.write, Decoder.optional c.read⟩

/-- One of several named values. -/
def choice (name : α → String) (ofName : String → Option α) : Codec α :=
  ⟨fun a => .text (name a), .choice ofName⟩

/-- An object of any content. -/
def anyObject : Codec (List (String × Value)) := ⟨.object, .anyObject⟩

/-- The text of a value on one line. -/
def encode (c : Codec α) (a : α) : String := (c.write a).compactText

/-- The value of a text. -/
def decode (c : Codec α) (s : String) : Except Breach α := Json.decode c.read s

end Codec

/-- When a field of a record may be left out. -/
inductive Absence where
  /-- Never. -/
  | refused
  /-- Where fields go by their names. -/
  | whereNamed
  /-- At the end of fields that go by their place too. -/
  | allowed
deriving DecidableEq, Repr

/-- A field of a record `ρ`: how it is written, and what reading it does to a record under way. -/
structure Member (ρ : Type) where
  name : String
  get : ρ → Value
  set : Decoder (ρ → ρ)
  absence : Absence

/-- A field from the codec of its type and its place in the record. -/
def Member.of {ρ α : Type} (name : String) (c : Codec α) (get : ρ → α) (put : ρ → α → ρ)
    (absence : Absence) : Member ρ where
  name := name
  get r := c.write (get r)
  set := c.read.map fun a r => put r a
  absence := absence

/-- What becomes of keys that name no field. -/
inductive Strangers where
  | skimmed
  | refused
deriving DecidableEq, Repr

namespace Decoder

variable {ρ α : Type}

/-- Reads the entries of a record in the order of the text; `seen` holds the names so far. -/
def namedFields (strangers : Strangers) (fields : List (Member ρ)) (room : Nat) :
    (seen : List String) → ρ → List (Literal × Tree) → Except Breach (List String × ρ)
  | seen, r, [] => .ok (seen, r)
  | seen, r, (key, t) :: es => do
    let k ← key.value
    match fields.find? (·.name = k) with
    | some f =>
      if seen.contains k then .error .mismatched
      else
        let change ← f.set room t
        namedFields strangers fields room (k :: seen) (change r) es
    | none =>
      if strangers = .refused then .error .mismatched
      else
        skim t
        namedFields strangers fields room seen r es

/-- Reads fields that go by their place. The record is finished as soon as its last field is
there, before anything that may follow. -/
def placedFields (finish : ρ → Option α) (room : Nat) (ending : Ending) :
    List (Member ρ) → ρ → List Tree → Except Breach α
  | [], r, ts =>
    match finish r with
    | none => .error .mismatched
    | some a =>
      if ts.isEmpty then do
        ending.check
        return a
      else .error .malformed
  | f :: fs, r, t :: ts => do
    let change ← f.set room t
    placedFields finish room ending fs (change r) ts
  | f :: fs, r, [] => do
    ending.check
    if f.absence = .allowed then placedFields finish room ending fs r [] else .error .mismatched

/-- A record, starting from what it is without any field; `finish` may refuse what its fields
make. -/
def finishedRecord (start : ρ) (fields : List (Member ρ)) (strangers : Strangers)
    (finish : ρ → Option α) : Decoder α
  | room, .object entries ending => do
    let room ← deeper room
    let (seen, r) ← namedFields strangers fields room [] start entries
    ending.check
    if fields.all fun f => f.absence != .refused || seen.contains f.name then
      match finish r with
      | some a => .ok a
      | none => .error .mismatched
    else .error .mismatched
  | room, .array items ending => do
    let room ← deeper room
    placedFields finish room ending fields start items
  | _, t => refuse t

/-- A record that is whatever its fields make. -/
def record (start : ρ) (fields : List (Member ρ)) (strangers : Strangers) : Decoder ρ :=
  finishedRecord start fields strangers some

end Decoder

/-- The entries of a record. -/
def entriesOf {ρ : Type} (fields : List (Member ρ)) (r : ρ) : List (String × Value) :=
  fields.map fun f => (f.name, f.get r)

/-- A record made of its fields; `start` is what it is without any of them. -/
def Codec.record {ρ : Type} (start : ρ) (fields : List (Member ρ)) (strangers : Strangers) :
    Codec ρ :=
  ⟨fun r => .object (entriesOf fields r), Decoder.record start fields strangers⟩

end LoopGauge.Json
