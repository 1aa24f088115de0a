import LoopGauge.Json.Tree
import LoopGauge.Json.Value
import LoopGauge.Number.Basic

/-!
# Reading typed values from documents

A decoder walks a tree in the order of the text and stops at the first thing that is wrong:
a fault of the text, or a value of another kind than wanted. Values that nobody asked for are
skimmed: only their grammar counts.

## Main definitions

* `Decoder α`: reads an `α`, given how many lists and objects may still be opened.
* `skim`: passes over a value.
* `anything`: reads a value of any kind.
* `decode`: reads a whole text.

## Design notes

Opening more than `maxDepth` lists and objects inside one another is a fault of the text. Skimming
opens nothing, so what is passed over may nest as deep as it likes.
-/

namespace LoopGauge.Json

open Number

/-- How many lists and objects may be open at once. -/
def maxDepth : Nat := 127

/-- Reads a value of one type; the number tells how many more levels may be opened. -/
abbrev Decoder (α : Type) := Nat → Tree → Except Breach α

/-- A fault, if there is one. -/
def failIf : Option Breach → Except Breach Unit
  | none => .ok ()
  | some b => .error b

namespace Ending

/-- A list or object must be closed properly. -/
def check : Ending → Except Breach Unit
  | closed => .ok ()
  | cut b => .error b

end Ending

mutual

/-- Passes over a value. The range of numbers and the pairing of surrogates do not matter. -/
def skim : Tree → Except Breach Unit
  | .word _ b => failIf b
  | .number n => failIf (n.breach.map fun _ => .malformed)
  | .text l => failIf l.breach
  | .array items ending => do
    skimItems items
    ending.check
  | .object entries ending => do
    skimEntries entries
    ending.check
  | .cut b => .error b

/-- Passes over the items of a list. -/
def skimItems : List Tree → Except Breach Unit
  | [] => .ok ()
  | t :: ts => do
    skim t
    skimItems ts

/-- Passes over keys and their values. -/
def skimEntries : List (Literal × Tree) → Except Breach Unit
  | [] => .ok ()
  | (key, t) :: es => do
    failIf key.breach
    skim t
    skimEntries es

end

/-- Refuses a value of the wrong kind, after reading it as far as it takes to tell its kind. -/
def refuse {α : Type} : Tree → Except Breach α
  | .word _ (some b) => .error b
  | .number n => do
    let _ ← n.value
    .error .mismatched
  | .text l => do
    let _ ← l.value
    .error .mismatched
  | .cut b => .error b
  | _ => .error .mismatched

/-- Opens one more level. -/
def deeper (room : Nat) : Except Breach Nat :=
  match room with
  | 0 => .error .malformed
  | room + 1 => .ok room

namespace Decoder

variable {α β : Type}

/-- A decoder whose value is changed. -/
protected def map (f : α → β) (d : Decoder α) : Decoder β := fun room t => (d room t).map f

/-- A decoder whose value may be refused. -/
def filterMap (f : α → Option β) (d : Decoder α) : Decoder β := fun room t => do
  match f (← d room t) with
  | some b => .ok b
  | none => .error .mismatched

/-- A string. -/
def text : Decoder String
  | _, .text l => l.value
  | _, t => refuse t

/-- Yes or no. -/
def flag : Decoder Bool
  | _, .word .yes none => .ok true
  | _, .word .no none => .ok false
  | _, t => refuse t

/-- Nothing. -/
def null : Decoder Unit
  | _, .word .null none => .ok ()
  | _, t => refuse t

/-- A whole number from zero up to a limit. -/
def natUpTo (limit : Nat) : Decoder Nat
  | _, .number n => do
    match ← n.value with
    | .whole k => if 0 ≤ k && k ≤ limit then .ok k.toNat else .error .mismatched
    | .real _ => .error .mismatched
  | _, t => refuse t

/-- A 64-bit word. -/
def word : Decoder UInt64 := (natUpTo Number.wordLimit).map UInt64.ofNat

/-- A number of any kind as a double. -/
def real : Decoder Binary64
  | _, .number n => do
    match ← n.value with
    | .whole k => .ok (if k < 0 then (Binary64.ofNat k.natAbs).neg else Binary64.ofNat k.natAbs)
    | .real x => .ok x
  | _, t => refuse t

/-- A value that may be null. -/
def optional (d : Decoder α) : Decoder (Option α)
  | _, .word .null none => .ok none
  | _, .word .null (some b) => .error b
  | room, t => (d room t).map some

/-- The items of a list. -/
def items (d : Decoder α) (room : Nat) : List Tree → Except Breach (List α)
  | [] => .ok []
  | t :: ts => do
    let a ← d room t
    let as ← items d room ts
    return a :: as

/-- A list. -/
def list (d : Decoder α) : Decoder (List α)
  | room, .array ts ending => do
    let room ← deeper room
    let as ← items d room ts
    ending.check
    return as
  | _, t => refuse t

/-- A string that names something. -/
def named (ofName : String → Option α) (l : Literal) : Except Breach α := do
  match ofName (← l.value) with
  | some a => .ok a
  | none => .error .mismatched

/-- One of several names, alone or as the only key of an object whose value is null. -/
def choice (ofName : String → Option α) : Decoder α
  | _, .text l => named ofName l
  | room, .object entries ending => do
    let room ← deeper room
    match entries with
    | [] =>
      ending.check
      .error .malformed
    | (key, t) :: more =>
      let a ← named ofName key
      null room t
      if more.isEmpty then ending.check else .error .malformed
      return a
  | _, .cut b => .error b
  | _, _ => .error .malformed

end Decoder

mutual

/-- Reads a value of any kind. Objects are sorted by key, and of several entries the last wins. -/
def anything (room : Nat) : Tree → Except Breach Value
  | .word w b => do
    failIf b
    return match w with
      | .null => .null
      | .yes => .flag true
      | .no => .flag false
  | .number n => do
    match ← n.value with
    | .whole k => return .whole k
    | .real x => return .real x
  | .text l => do
    return .text (← l.value)
  | .array items ending => do
    let values ← anyItems (← deeper room) items
    ending.check
    return .array values
  | .object entries ending => do
    let values ← anyEntries (← deeper room) entries
    ending.check
    return .object (sortKeys values)
  | .cut b => .error b

/-- Reads items of any kind. -/
def anyItems (room : Nat) : List Tree → Except Breach (List Value)
  | [] => .ok []
  | t :: ts => do
    let v ← anything room t
    let vs ← anyItems room ts
    return v :: vs

/-- Reads entries of any kind. -/
def anyEntries (room : Nat) : List (Literal × Tree) → Except Breach (List (String × Value))
  | [] => .ok []
  | (key, t) :: es => do
    let k ← key.value
    let v ← anything room t
    let vs ← anyEntries room es
    return (k, v) :: vs

end

namespace Decoder

/-- A free-form object: keys sorted, the last of several entries with one key. -/
def anyObject : Decoder (List (String × Value))
  | room, .object entries ending => do
    let values ← anyEntries (← deeper room) entries
    ending.check
    return sortKeys values
  | _, t => refuse t

end Decoder

/-- Reads a whole text; nothing but blanks may follow the value. -/
def decode {α : Type} (d : Decoder α) (s : String) : Except Breach α := do
  let document := Document.read s
  let a ← d maxDepth document.root
  if document.trailing then .error .malformed else .ok a

end LoopGauge.Json
