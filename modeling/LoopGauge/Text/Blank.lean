/-!
# Blank characters

The Unicode property White_Space, and what is left of a text without the blanks around it.

## Main definitions

* `isBlank c`: whether a character is white space.
* `trim`, `trimStart`, `trimEnd`: a text without surrounding, leading or trailing blanks.
-/

namespace LoopGauge.Text

/-- White space: nine to thirteen, the space, and the Unicode separators. -/
def isBlank (c : Char) : Bool :=
  let n := c.toNat
  (9 ≤ n && n ≤ 13) || n == 32 || n == 0x85 || n == 0xA0 || n == 0x1680 ||
    (0x2000 ≤ n && n ≤ 0x200A) || n == 0x2028 || n == 0x2029 || n == 0x202F ||
    n == 0x205F || n == 0x3000

def trimStart (cs : List Char) : List Char := cs.dropWhile isBlank

def trimEnd (cs : List Char) : List Char := (cs.reverse.dropWhile isBlank).reverse

def trim (cs : List Char) : List Char := trimEnd (trimStart cs)

/-- A string without surrounding blanks. -/
def trimmed (s : String) : String := String.ofList (trim s.toList)

end LoopGauge.Text
