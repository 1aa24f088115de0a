import LoopGauge.Number.Fixed

/-!
# Terminal colours

A terminal has eight colours, plain or bright. Other colours are mixed of red, green and blue; a
terminal that cannot mix shows the nearest of its own.

## Main definitions

* `Standard`: the sixteen colours of a terminal, with their codes and the shades they usually have.
* `Shade.nearest`: the standard colour that comes nearest to a shade.
* `Colour`: a standard colour or a shade.
-/

namespace LoopGauge.Style

/-- The eight colours, in the order of their codes. -/
inductive Hue where
  | black | red | green | yellow | blue | magenta | cyan | white
deriving DecidableEq, Repr

namespace Hue

def all : List Hue := [black, red, green, yellow, blue, magenta, cyan, white]

def name : Hue → String
  | black => "black"
  | red => "red"
  | green => "green"
  | yellow => "yellow"
  | blue => "blue"
  | magenta => "magenta"
  | cyan => "cyan"
  | white => "white"

/-- The place of a colour among the eight. -/
def index : Hue → Nat
  | black => 0
  | red => 1
  | green => 2
  | yellow => 3
  | blue => 4
  | magenta => 5
  | cyan => 6
  | white => 7

end Hue

/-- A mixture of red, green and blue light. -/
structure Shade where
  red : UInt8
  green : UInt8
  blue : UInt8
deriving DecidableEq, Repr

/-- A colour that every terminal has. -/
structure Standard where
  hue : Hue
  bright : Bool := false
deriving DecidableEq, Repr

namespace Standard

/-- The plain colours and then the bright ones, in the order of their codes. -/
def all : List Standard := Hue.all.map (⟨·, false⟩) ++ Hue.all.map (⟨·, true⟩)

/-- The code that selects the colour for the text that follows. -/
def code (c : Standard) : Nat := (if c.bright then 90 else 30) + c.hue.index

/-- The name of a colour; a bright one is `bright` and its plain name. -/
def name (c : Standard) : String := if c.bright then "bright " ++ c.hue.name else c.hue.name

/-- The shade in which terminals show the colour. -/
def shade (c : Standard) : Shade :=
  match c.bright, c.hue with
  | false, .black => ⟨0, 0, 0⟩
  | false, .red => ⟨205, 0, 0⟩
  | false, .green => ⟨0, 205, 0⟩
  | false, .yellow => ⟨205, 205, 0⟩
  | false, .blue => ⟨0, 0, 238⟩
  | false, .magenta => ⟨205, 0, 205⟩
  | false, .cyan => ⟨0, 205, 205⟩
  | false, .white => ⟨229, 229, 229⟩
  | true, .black => ⟨127, 127, 127⟩
  | true, .red => ⟨255, 0, 0⟩
  | true, .green => ⟨0, 255, 0⟩
  | true, .yellow => ⟨255, 255, 0⟩
  | true, .blue => ⟨92, 92, 255⟩
  | true, .magenta => ⟨255, 0, 255⟩
  | true, .cyan => ⟨0, 255, 255⟩
  | true, .white => ⟨255, 255, 255⟩

end Standard

namespace Shade

/-- The square of the difference of two parts. -/
def gap (a b : UInt8) : Nat :=
  let d := (a.toNat : Int) - b.toNat
  (d * d).toNat

/-- The square of the distance of two shades. -/
def distance (a b : Shade) : Nat :=
  gap a.red b.red + gap a.green b.green + gap a.blue b.blue

/-- The standard colour that comes nearest; of several the first. -/
def nearest (s : Shade) : Standard :=
  Standard.all.foldl
    (fun best c => if c.shade.distance s < best.shade.distance s then c else best) ⟨.black, false⟩

/-- Two hexadecimal digits. -/
def hexPart (n : UInt8) : List Char :=
  let ds := Nat.toDigits 16 n.toNat
  List.replicate (2 - ds.length) '0' ++ ds

/-- The name of a shade: a hash and two hexadecimal digits for each part. -/
def name (s : Shade) : String :=
  String.ofList ('#' :: (hexPart s.red ++ hexPart s.green ++ hexPart s.blue))

end Shade

/-- A colour of text. -/
inductive Colour where
  | standard (c : Standard)
  | mixed (s : Shade)
deriving DecidableEq, Repr

namespace Colour

def red : Colour := standard ⟨.red, false⟩
def green : Colour := standard ⟨.green, false⟩
def yellow : Colour := standard ⟨.yellow, false⟩
def blue : Colour := standard ⟨.blue, false⟩
def magenta : Colour := standard ⟨.magenta, false⟩
def cyan : Colour := standard ⟨.cyan, false⟩
def white : Colour := standard ⟨.white, false⟩
def brightBlack : Colour := standard ⟨.black, true⟩
def brightRed : Colour := standard ⟨.red, true⟩

def name : Colour → String
  | standard c => c.name
  | mixed s => s.name

end Colour

/-- Whether escape sequences are written, and which colours they may ask for. -/
inductive Ink where
  /-- None are written. -/
  | bare
  /-- The standard colours. -/
  | ansi
  /-- Any shade. -/
  | mixing
deriving DecidableEq, Repr

/-- The codes that select a colour. -/
def Colour.codes (ink : Ink) : Colour → List Nat
  | standard c => [c.code]
  | mixed s =>
    if ink = .mixing then [38, 2, s.red.toNat, s.green.toNat, s.blue.toNat] else [s.nearest.code]

end LoopGauge.Style
