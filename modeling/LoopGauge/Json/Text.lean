import LoopGauge.Json.Value
import LoopGauge.Number.Shortest

/-!
# JSON text

How values are written: on one line without blanks, or with one entry a line.

## Main definitions

* `quote`: a string between quotes, with escapes.
* `compact`: the text without blanks.
* `pretty`: the text with two blanks of indentation per level.
-/

namespace LoopGauge.Json

open Number

/-- Real numbers are written positionally from `0.00001` up to below ten to the sixteenth. -/
def spelling : Spelling := ⟨-5, 15, true⟩

/-- The digit of a value below sixteen. -/
def hexDigit (n : Nat) : Char := Nat.digitChar n

/-- A character inside quotes: quote, backslash and control characters are escaped. -/
def escape (c : Char) : List Char :=
  if c = '"' then ['\\', '"']
  else if c = '\\' then ['\\', '\\']
  else if c = '\x08' then ['\\', 'b']
  else if c = '\x0c' then ['\\', 'f']
  else if c = '\n' then ['\\', 'n']
  else if c = '\r' then ['\\', 'r']
  else if c = '\t' then ['\\', 't']
  else if c.toNat < 0x20 then
    ['\\', 'u', '0', '0', hexDigit (c.toNat / 16), hexDigit (c.toNat % 16)]
  else [c]

/-- A string between quotes. -/
def quote (s : String) : List Char := '"' :: (s.toList.flatMap escape ++ ['"'])

/-- A whole number. -/
def wholeText (n : Int) : List Char :=
  if n < 0 then '-' :: digits n.natAbs else digits n.natAbs

/-- A real number; one that is not finite has no numeral. -/
def realText (x : Binary64) : List Char :=
  if x.isFinite then spelling.text x else "null".toList

def flagText (b : Bool) : List Char := if b then "true".toList else "false".toList

mutual

/-- The text of a value without blanks. -/
def compact : Value → List Char
  | .null => "null".toList
  | .flag b => flagText b
  | .whole n => wholeText n
  | .real x => realText x
  | .text s => quote s
  | .array [] => ['[', ']']
  | .array (v :: vs) => '[' :: (compact v ++ compactItems vs ++ [']'])
  | .object [] => ['{', '}']
  | .object ((k, v) :: es) => '{' :: (quote k ++ ':' :: (compact v ++ compactEntries es ++ ['}']))

/-- Further items, each after a comma. -/
def compactItems : List Value → List Char
  | [] => []
  | v :: vs => ',' :: (compact v ++ compactItems vs)

/-- Further entries, each after a comma. -/
def compactEntries : List (String × Value) → List Char
  | [] => []
  | (k, v) :: es => ',' :: (quote k ++ ':' :: (compact v ++ compactEntries es))

end

/-- The start of a new line at a level of indentation. -/
def newLine (level : Nat) : List Char := '\n' :: List.replicate (2 * level) ' '

mutual

/-- The text of a value with one item or entry a line. -/
def pretty (level : Nat) : Value → List Char
  | .null => "null".toList
  | .flag b => flagText b
  | .whole n => wholeText n
  | .real x => realText x
  | .text s => quote s
  | .array [] => ['[', ']']
  | .array (v :: vs) =>
    '[' :: (newLine (level + 1) ++ pretty (level + 1) v ++ prettyItems (level + 1) vs ++
      newLine level ++ [']'])
  | .object [] => ['{', '}']
  | .object ((k, v) :: es) =>
    '{' :: (newLine (level + 1) ++ quote k ++ ':' :: ' ' :: (pretty (level + 1) v ++
      prettyEntries (level + 1) es ++ newLine level ++ ['}']))

/-- Further items, each after a comma on a line of its own. -/
def prettyItems (level : Nat) : List Value → List Char
  | [] => []
  | v :: vs => ',' :: (newLine level ++ pretty level v ++ prettyItems level vs)

/-- Further entries, each after a comma on a line of its own. -/
def prettyEntries (level : Nat) : List (String × Value) → List Char
  | [] => []
  | (k, v) :: es =>
    ',' :: (newLine level ++ quote k ++ ':' :: ' ' ::
      (pretty level v ++ prettyEntries level es))

end

namespace Value

def compactText (v : Value) : String := String.ofList (compact v)

def prettyText (v : Value) : String := String.ofList (pretty 0 v)

end Value

end LoopGauge.Json
