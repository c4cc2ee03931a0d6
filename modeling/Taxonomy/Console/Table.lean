import Taxonomy.Console.Cell
import Taxonomy.Console.Markup

/-!
# Drawn tables

A table with a title, a row of headings and a frame. A column is as wide as its widest cell; a cell
may have several lines.
-/

namespace Taxonomy.Console

/-- **A column of a table**, by its heading. -/
structure Column where
  heading : String
  /-- Are the cells moved to the right end? -/
  right : Bool := false

/-- **A table to be drawn.** Title and cells are marked-up texts. -/
structure Table where
  title : String
  columns : List Column
  rows : List (List String) := []

/-- A text filled up with blanks to a width. -/
def fill (right : Bool) (width : Nat) (s : String) : String :=
  let blanks := String.ofList (List.replicate (width - Text.cells s) ' ')
  if right then blanks ++ s else s ++ blanks

/-- A text in the middle of a width; the odd blank goes to the right. -/
def centre (width : Nat) (s : String) : String :=
  let spare := width - Text.cells s
  let blanks (n : Nat) := String.ofList (List.replicate n ' ')
  blanks (spare / 2) ++ s ++ blanks (spare - spare / 2)

/-- The lines of a title, each in the middle of the table. -/
def titleLines (width : Nat) (s : String) : List String :=
  ((printable s).splitOn '\n').flatMap fun line =>
    (wrapped .fold width (expandTabs line)).map fun cs =>
      centre width (String.ofList (shorten .fold width (trimEnd cs)))

/-- A line of the frame: its ends, its crossings, and what it is drawn with. -/
def rule (left cross right : String) (dash : Char) (widths : List Nat) : String :=
  let parts := widths.map fun w => String.ofList (List.replicate (w + 2) dash)
  left ++ cross.intercalate parts ++ right ++ "\n"

/-- A column with the texts of its cells, of which the first is the heading. -/
structure FilledColumn extends Column where
  texts : List String

/-- The width of a column: what its widest text asks for. -/
def FilledColumn.width (c : FilledColumn) : Nat := ((c.texts.map askedWidth).max?).getD 0

/-- The lines of a row of cells between uprights. -/
def rowLines (upright : String) (columns : List FilledColumn) (row : Nat) : String :=
  let cells := columns.map fun c =>
    (c, c.width, cellLines c.right c.width (c.texts[row]?.getD ""))
  let height := ((cells.map (·.2.2.length)).max?).getD 0
  String.join <| (List.range height).map fun i =>
    let parts := cells.map fun (c, w, ls) => " " ++ fill c.right w (ls[i]?.getD "") ++ " "
    upright ++ upright.intercalate parts ++ upright ++ "\n"

/-- The columns of a table without the marks in their cells, column after column. -/
def Table.filled (t : Table) : Result (List FilledColumn) :=
  t.columns.zipIdx.mapM fun (c, i) => do
    let texts ← t.rows.mapM fun row => Markup.render (row[i]?.getD "")
    return { c with texts := c.heading :: texts }

/-- **Draws a table.** -/
def Table.draw (t : Table) : Result String := do
  let columns ← t.filled
  let widths := columns.map (·.width)
  let width := widths.foldl (fun n w => n + w + 3) 1
  let title := titleLines width (← Markup.render t.title)
  let rows := (List.range t.rows.length).map fun i => rowLines "│" columns (i + 1)
  return String.join (title.map fun s => s ++ "\n") ++
    rule "┏" "┳" "┓" '━' widths ++ rowLines "┃" columns 0 ++
    rule "┡" "╇" "┩" '━' widths ++ String.join rows ++
    rule "└" "┴" "┘" '─' widths

end Taxonomy.Console
