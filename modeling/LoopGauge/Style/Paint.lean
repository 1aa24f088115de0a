import LoopGauge.Style.Colour

/-!
# Painted text

Text in a colour or in bold is put between escape sequences. Where the text itself resets the
style, the style is opened again, so the whole text keeps it.

## Main definitions

* `Paint`: bold or not, and perhaps a colour.
* `Paint.apply`: the painted text; without bold and colour, and on bare output, the text itself.
-/

namespace LoopGauge.Style

/-- A style of text. -/
structure Paint where
  bold : Bool := false
  colour : Option Colour := none
deriving DecidableEq, Repr

namespace Paint

def plain : Paint := {}

def of (c : Colour) : Paint := { colour := some c }

def boldOf (c : Colour) : Paint := { bold := true, colour := some c }

/-- The sequence that ends every style. -/
def reset : List Char := ['\x1b', '[', '0', 'm']

def isPlain (p : Paint) : Bool := !p.bold && p.colour.isNone

/-- The codes of a style, bold first. -/
def codes (ink : Ink) (p : Paint) : List Nat :=
  (if p.bold then [1] else []) ++ ((p.colour.map (·.codes ink)).getD [])

/-- The sequence that starts a style. -/
def opening (ink : Ink) (p : Paint) : List Char :=
  '\x1b' :: '[' :: (((p.codes ink).map Number.digits).intersperse [';']).flatten ++ ['m']

/-- Opens a style again after every reset inside the text. -/
def reopen (start : List Char) : List Char → List Char
  | '\x1b' :: '[' :: '0' :: 'm' :: rest => reset ++ start ++ reopen start rest
  | c :: rest => c :: reopen start rest
  | [] => []

/-- The text in the style. -/
def apply (ink : Ink) (p : Paint) (s : String) : String :=
  if ink = .bare || p.isPlain then s
  else
    let start := p.opening ink
    String.ofList (start ++ reopen start s.toList ++ reset)

end Paint

end LoopGauge.Style
