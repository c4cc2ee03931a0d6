import Taxonomy.Text.Width

/-!
# Lines

What is printed loses a few control characters, and tabulators are filled up with blanks.

* `printable`: a text without the control characters that are not printed.
* `expandTabs`: a line with its tabulators filled up.
* `anyLines`: the lines of a text of any origin.
-/

namespace Taxonomy.Console

open Text (lineCells)

/-- The control characters that are not printed. -/
def isDropped (c : Char) : Bool := [7, 8, 11, 12, 13].contains c.toNat

/-- A text without the control characters that are not printed. -/
def printable (s : String) : List Char := s.toList.filter (!isDropped ·)

/-- The width between tabulator stops. -/
def tabWidth : Nat := 8

/-- The parts of a line between tabulators put together, where `column` cells stand in front of
them. A part and its tabulator end at a stop. -/
def fillTabs (column : Nat) : List (List Char) → List Char
  | [] => []
  | [part] => part
  | part :: parts =>
    let reached := column + lineCells (part ++ [' '])
    let spare := (tabWidth - reached % tabWidth) % tabWidth
    part ++ ' ' :: List.replicate spare ' ' ++ fillTabs (reached + spare) parts

/-- **A line with its tabulators filled up.** -/
def expandTabs (cs : List Char) : List Char := fillTabs 0 (cs.splitOn '\t')

/-- The characters that end a line in a text of any origin. -/
def isLineEnd (c : Char) : Bool :=
  [0x0a, 0x0b, 0x0c, 0x0d, 0x1c, 0x1d, 0x1e, 0x85, 0x2028, 0x2029].contains c.toNat

/-- The lines of a text of any origin, the current one in reverse. -/
def anyLines : List Char → List Char → List String
  | [], [] => []
  | acc, [] => [String.ofList acc.reverse]
  | acc, '\r' :: '\n' :: cs => String.ofList acc.reverse :: anyLines [] cs
  | acc, c :: cs =>
    if isLineEnd c then String.ofList acc.reverse :: anyLines [] cs else anyLines (c :: acc) cs

/-- A line without tabulators is left as it is. -/
theorem fillTabs_singleton (column : Nat) (cs : List Char) : fillTabs column [cs] = cs := rfl

end Taxonomy.Console
