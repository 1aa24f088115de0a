import LoopGauge.Number.Numeral
import LoopGauge.Style.Colour
import LoopGauge.Text.Casing

/-!
# Colours by name

A colour is asked for by the name of a standard colour or by a hash and hexadecimal digits, in any
letter case. The digits are cut by their bytes into three parts of one or two; a cut through the
middle of a character cannot be made, and nobody is there to answer for it.

## Main definitions

* `takeBytes`: the characters that fill so many bytes.
* `Shade.read`: the shade of three parts.
* `Colour.named?`: the colour of a name.
-/

namespace LoopGauge.Style

/-- Why a text is no shade. -/
inductive ShadeProblem where
  | invalid
  /-- A part would end inside a character. -/
  | insideCharacter
deriving DecidableEq, Repr

/-- The first characters that fill exactly so many bytes, and the others. -/
def takeBytes : Nat → List Char → Option (List Char × List Char)
  | 0, cs => some ([], cs)
  | _ + 1, [] => none
  | n + 1, c :: cs =>
    if c.utf8Size ≤ n + 1 then
      (takeBytes (n + 1 - c.utf8Size) cs).map fun (taken, rest) => (c :: taken, rest)
    else none

namespace Shade

/-- The number of one or two hexadecimal digits; a plus sign may lead a digit. -/
def part? (cs : List Char) : Option Nat :=
  let digits :=
    match cs with
    | '+' :: c :: rest => c :: rest
    | cs => cs
  if digits.isEmpty then none
  else (digits.mapM Number.hexValue?).map fun ds => ds.foldl (fun n d => n * 16 + d) 0

/-- The part that so many bytes hold, and what follows them. -/
def readPart (width : Nat) (cs : List Char) : Except ShadeProblem (Nat × List Char) :=
  match takeBytes width cs with
  | none => .error .insideCharacter
  | some (piece, rest) =>
    match part? piece with
    | none => .error .invalid
    | some n => .ok (n, rest)

/-- The shade of three parts of `width` bytes; a part of one digit stands for the digit twice. -/
def readParts (width : Nat) (cs : List Char) : Except ShadeProblem Shade := do
  let scale := if width = 1 then 17 else 1
  let (r, cs) ← readPart width cs
  let (g, cs) ← readPart width cs
  let (b, _) ← readPart width cs
  return ⟨.ofNat (r * scale), .ofNat (g * scale), .ofNat (b * scale)⟩

/-- The shade of six bytes or of three. -/
def read (cs : List Char) : Except ShadeProblem Shade :=
  match (String.ofList cs).utf8ByteSize with
  | 6 => readParts 2 cs
  | 3 => readParts 1 cs
  | _ => .error .invalid

end Shade

/-- The standard colour of a name in small letters; `purple` is another word for magenta. -/
def Standard.ofName? (name : String) : Option Standard :=
  if name = "purple" then some ⟨.magenta, false⟩ else Standard.all.find? (·.name = name)

/-- The colour of a name, white if there is none; no answer if a shade cannot be cut into parts. -/
def Colour.named? (s : String) : Option Colour :=
  match Text.lowercase s.toList with
  | '#' :: digits =>
    match Shade.read digits with
    | .ok shade => some (mixed shade)
    | .error .invalid => some white
    | .error .insideCharacter => none
  | name => some (((Standard.ofName? (String.ofList name)).map standard).getD white)

end LoopGauge.Style
