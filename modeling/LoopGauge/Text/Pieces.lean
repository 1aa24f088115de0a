/-!
# Pieces of a text

Cutting a text at a separator, and into lines.

## Main definitions

* `pieces sep cs`: the texts between separators; one more than there are separators.
* `lines cs`: the lines of a text; a line ends with a line feed or a carriage return and a line
  feed, and nothing follows the last line end.
-/

namespace LoopGauge.Text

variable {α : Type}

/-- The parts between the elements that are separators. -/
def piecesBy (isSeparator : α → Bool) : List α → List (List α)
  | [] => [[]]
  | c :: cs =>
    if isSeparator c then [] :: piecesBy isSeparator cs
    else
      match piecesBy isSeparator cs with
      | [] => [[c]]
      | p :: ps => (c :: p) :: ps

/-- The texts between separators. -/
def pieces (sep : Char) (cs : List Char) : List (List Char) := piecesBy (· == sep) cs

/-- Drops one given element from the end. -/
def dropLastIf (isEnd : α → Bool) (xs : List α) : List α :=
  match xs.getLast? with
  | some x => if isEnd x then xs.dropLast else xs
  | none => xs

/-- The lines, given what ends a line and what may stand before the end. -/
def linesBy (isFeed isReturn : α → Bool) (xs : List α) : List (List α) :=
  let parts := piecesBy isFeed xs
  let ended := parts.dropLast.map (dropLastIf isReturn)
  match parts.getLast? with
  | some [] => ended
  | some rest => ended ++ [rest]
  | none => ended

/-- The lines of a text. -/
def lines (cs : List Char) : List (List Char) := linesBy (· == '\n') (· == '\r') cs

/-- Joins texts with a separator between them. -/
def join (sep : String) (xs : List String) : String := sep.intercalate xs

/-- What stands before and after the first occurrence of a separator. -/
def cutAt? (sep : Char) : List Char → Option (List Char × List Char)
  | [] => none
  | c :: cs =>
    if c == sep then some ([], cs)
    else (cutAt? sep cs).map fun (before, after) => (c :: before, after)

end LoopGauge.Text
