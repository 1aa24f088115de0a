import LoopGauge.Text.Pieces

/-!
# Texts in columns

Widths are counted in characters, so that a unit such as `µs` takes two places.

## Main definitions

* `width`: the number of characters.
* `padEnd`, `padStart`: a text filled up with spaces.
-/

namespace LoopGauge.Text

/-- The number of characters of a text. -/
def width (s : String) : Nat := s.length

/-- A character repeated. -/
def repeated (n : Nat) (c : Char) : String := String.ofList (List.replicate n c)

/-- A text with spaces behind it, up to a width. -/
def padEnd (n : Nat) (s : String) : String := s ++ repeated (n - width s) ' '

/-- A text with spaces in front of it, up to a width. -/
def padStart (n : Nat) (s : String) : String := repeated (n - width s) ' ' ++ s

/-- Lines, each with a line feed behind it. -/
def joinLines (lines : List String) : String := String.join (lines.map (· ++ "\n"))

end LoopGauge.Text
