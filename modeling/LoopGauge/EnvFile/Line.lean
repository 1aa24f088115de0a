import LoopGauge.Number.Basic
import LoopGauge.Text.Alphanumeric
import LoopGauge.Text.Blank

/-!
# Lines of an env file

A line is blank, a comment, or an assignment `KEY=value`, perhaps after the word `export`. A value
may be quoted, holds escapes outside single quotes, and may name other variables after `$`.

## Main definitions

* `Assignment.read`: the assignment of a line.
* `Value.scan`: a value, character by character.
* `Problem`: the text that is wrong and how far it was read.
-/

namespace LoopGauge.EnvFile

open Text

/-- A text that cannot be read, and the place that was reached in it. -/
structure Problem where
  text : String
  index : Nat
deriving DecidableEq, Repr

namespace Value

/-- What the characters of a value mean at some place. -/
inductive Mode where
  | plain
  /-- After an unquoted blank: only blanks and a comment may follow. -/
  | ending
  | escape (quoted : Bool)
  | single
  | double
  /-- In the name of a variable, so far in reverse. -/
  | name (quoted : Bool) (letters : List Char)
  /-- In a name between braces. -/
  | braced (quoted : Bool) (letters : List Char)
deriving DecidableEq, Repr

/-- The mode outside names and escapes. -/
def Mode.around (quoted : Bool) : Mode := if quoted then .double else .plain

/-- What a character after a backslash stands for. -/
def escaped? (c : Char) : Option Char :=
  if c = '\\' || c = '\'' || c = '"' || c = '$' || c = ' ' then some c
  else if c = 'n' then some '\n'
  else none

/-- One character further: the new mode and what is added to the value. -/
inductive Step where
  | go (mode : Mode) (added : List Char)
  /-- The rest is a comment. -/
  | finish
  | fail
deriving DecidableEq, Repr

/-- What a character means; `resolve` gives the value of a variable. -/
def step (resolve : String → String) : Mode → Char → Step
  | .ending, c =>
    if c = ' ' || c = '\t' then .go .ending [] else if c = '#' then .finish else .fail
  | .escape quoted, c =>
    match escaped? c with
    | some d => .go (.around quoted) [d]
    | none => .fail
  | .single, c => if c = '\'' then .go .plain [] else .go .single [c]
  | .name quoted letters, c =>
    if isAlphanumeric c then .go (.name quoted (c :: letters)) []
    else if c = '\x7b' && letters.isEmpty then .go (.braced quoted []) []
    else
      let value := (resolve (String.ofList letters.reverse)).toList
      if c = '$' then .go (.name quoted []) value else .go (.around quoted) (value ++ [c])
  | .braced quoted letters, c =>
    if c = '\x7d' then
      .go (.around quoted) (resolve (String.ofList letters.reverse)).toList
    else .go (.braced quoted (c :: letters)) []
  | .double, c =>
    if c = '$' then .go (.name true []) []
    else if c = '"' then .go .plain []
    else if c = '\\' then .go (.escape true) []
    else .go .double [c]
  | .plain, c =>
    if c = '$' then .go (.name false []) []
    else if c = '\'' then .go .single []
    else if c = '"' then .go .double []
    else if c = '\\' then .go (.escape false) []
    else if c = ' ' || c = '\t' then .go .ending []
    else .go .plain [c]

/-- What the end of the text adds; `none` if a quote or a brace is open. -/
def close? (resolve : String → String) : Mode → Option (List Char)
  | .plain | .ending | .escape false => some []
  | .name false letters => some (resolve (String.ofList letters.reverse)).toList
  | .single | .double | .escape true | .name true _ | .braced _ _ => none

/-- Why a value ends before its time. -/
inductive Stop where
  /-- At the character with this index. -/
  | character (index : Nat)
  | unclosed
deriving DecidableEq, Repr

/-- Reads on from a mode; `index` counts characters. -/
def scan (resolve : String → String) :
    Mode → (index : Nat) → List Char → Except Stop (List Char)
  | mode, _, [] =>
    match close? resolve mode with
    | some added => .ok added
    | none => .error .unclosed
  | mode, index, c :: cs =>
    match step resolve mode c with
    | .go mode added => (scan resolve mode (index + 1) cs).map (added ++ ·)
    | .finish => .ok []
    | .fail => .error (.character index)

/-- The value that a text stands for. -/
def read (resolve : String → String) (cs : List Char) : Except Problem String :=
  match scan resolve .plain 0 cs with
  | .ok value => .ok (String.ofList value)
  | .error (.character index) => .error ⟨String.ofList cs, index⟩
  | .error .unclosed => .error ⟨String.ofList cs, (String.ofList cs).utf8ByteSize - 1⟩

end Value

/-- A variable and its value. -/
structure Assignment where
  key : String
  value : String
deriving DecidableEq, Repr

/-- A rest of a line and the number of bytes before it. -/
structure Cursor where
  pos : Nat
  rest : List Char

namespace Cursor

def byteCount (cs : List Char) : Nat := Number.total (cs.map Char.utf8Size)

/-- Passes over the characters that satisfy a test. -/
def skip (accepts : Char → Bool) (c : Cursor) : Cursor :=
  ⟨c.pos + byteCount (c.rest.takeWhile accepts), c.rest.dropWhile accepts⟩

def skipBlanks (c : Cursor) : Cursor := c.skip isBlank

def startsKey (c : Char) : Bool := c.isAlpha || c == '_'

def continuesKey (c : Char) : Bool := c.isAlphanum || c == '_' || c == '.'

/-- A key and the blanks after it. -/
def key? (c : Cursor) : Option (String × Cursor) :=
  match c.rest with
  | first :: _ =>
    if startsKey first then
      some (String.ofList (c.rest.takeWhile continuesKey), (c.skip continuesKey).skipBlanks)
    else none
  | [] => none

/-- Passes over an equals sign. -/
def equals? (c : Cursor) : Option Cursor :=
  match c.rest with
  | '=' :: rest => some ⟨c.pos + 1, rest⟩
  | _ => none

end Cursor

namespace Assignment

/-- The place that was reached in a line. -/
def failAt (line : List Char) (c : Cursor) : Problem := ⟨String.ofList line, c.pos⟩

/-- Takes what is there or fails at the place. -/
def expect {α : Type} (line : List Char) (c : Cursor) : Option α → Except Problem α
  | some a => .ok a
  | none => .error (failAt line c)

/-- The key of an assignment and what follows the equals sign. -/
def readKey (line : List Char) (start : Cursor) : Except Problem (String × Cursor) := do
  let (key, c) ← expect line start start.key?
  match c.equals? with
  | some c => return (key, c)
  | none =>
    if key = "export" then
      let (key, c) ← expect line c c.key?
      let c ← expect line c c.equals?
      return (key, c)
    else .error (failAt line c)

/-- Whether nothing or a comment is left. -/
def isOver (cs : List Char) : Bool := cs.isEmpty || cs.head? == some '#'

/-- The assignment of a line; `none` for blank lines and comments. -/
def read (resolve : String → String) (line : List Char) : Except Problem (Option Assignment) := do
  let start := Cursor.skipBlanks ⟨0, trimEnd line⟩
  if isOver start.rest then return none
  let (key, c) ← readKey line start
  let rest := c.skipBlanks.rest
  if isOver rest then return some ⟨key, ""⟩
  let value ← Value.read resolve rest
  return some ⟨key, value⟩

end Assignment

end LoopGauge.EnvFile
