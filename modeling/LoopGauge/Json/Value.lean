import LoopGauge.Number.Binary64

/-!
# JSON values

Documents as values. Numbers are whole or real; objects keep their entries in order.

## Main definitions

* `Value`: a JSON value.
* `insertKey`: an entry put into a list of entries that is sorted by key; the last one wins.
-/

namespace LoopGauge.Json

open Number

/-- A JSON value. A real number that is not finite is written `null`. -/
inductive Value where
  | null
  | flag (b : Bool)
  | whole (n : Int)
  | real (x : Binary64)
  | text (s : String)
  | array (items : List Value)
  | object (entries : List (String × Value))
deriving Repr, Inhabited

namespace Value

def ofNat (n : Nat) : Value := whole n

def ofWord (n : UInt64) : Value := whole n.toNat

def ofOption {α : Type} (f : α → Value) : Option α → Value
  | none => null
  | some a => f a

end Value

variable {α : Type}

/-- Puts an entry into a list sorted by key; an entry of the same key is replaced. -/
def insertKey (key : String) (value : α) : List (String × α) → List (String × α)
  | [] => [(key, value)]
  | entry :: rest =>
    if key < entry.1 then (key, value) :: entry :: rest
    else if key = entry.1 then (key, value) :: rest
    else entry :: insertKey key value rest

/-- Entries sorted by key, of several with one key the last. -/
def sortKeys (entries : List (String × α)) : List (String × α) :=
  entries.foldl (fun sorted entry => insertKey entry.1 entry.2 sorted) []

/-- The value of a key. -/
def find? (key : String) (entries : List (String × α)) : Option α :=
  (entries.find? (·.1 = key)).map (·.2)

end LoopGauge.Json
