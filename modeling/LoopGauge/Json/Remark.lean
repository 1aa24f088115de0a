import LoopGauge.Json.Lexeme
import LoopGauge.Number.Fixed

/-!
# Remarks on documents

What is said of a document that cannot be read: a text, and the line and the column at which the
document goes wrong, if they are known.

## Main definitions

* `Remark.ofText`: the remark that a text is; the text may end in a position.
* `Remark.message`: a remark as text. A position in line zero is not told.
-/

namespace LoopGauge.Json

open Number

/-- A line and a column of a document. Lines count from one; in line zero nothing is known. -/
structure Position where
  line : UInt64
  column : UInt64
deriving DecidableEq, Repr

/-- What is said of a document, and where it applies. -/
structure Remark where
  text : List Char
  position : Option Position := none
deriving DecidableEq, Repr

namespace Remark

/-- The words before the two numbers of a position. -/
def lineMark : String := " at line "
def columnMark : String := " column "

/-- A text without the digits at its end, and those digits. -/
def splitDigits (cs : List Char) : List Char × List Char :=
  let digits := (cs.reverse.takeWhile isDigit).reverse
  (cs.take (cs.length - digits.length), digits)

/-- What stands before the given end of a text. -/
def before? (ending : String) (cs : List Char) : Option (List Char) :=
  let front := cs.take (cs.length - ending.toList.length)
  if front ++ ending.toList = cs then some front else none

/-- The remark of a text that ends in a position. -/
def positioned? (cs : List Char) : Option Remark := do
  let (cs, column) := splitDigits cs
  let (cs, line) := splitDigits (← before? columnMark cs)
  let text ← before? lineMark cs
  return ⟨text, some ⟨← (Numeral.word? line).toOption, ← (Numeral.word? column).toOption⟩⟩

/-- The remark that a text is. -/
def ofText (s : String) : Remark := (positioned? s.toList).getD ⟨s.toList, none⟩

/-- The end of a text that tells a position. -/
def positionText (p : Position) : String :=
  if p.line = 0 then ""
  else lineMark ++ decimal p.line.toNat ++ columnMark ++ decimal p.column.toNat

/-- A remark as text. -/
def message (r : Remark) : String :=
  String.ofList r.text ++ (r.position.map positionText).getD ""

end Remark

end LoopGauge.Json
