import Taxonomy.Console.Wrap

/-!
# Table cells

The text of a table cell within the width of its column. A column is as wide as its texts ask for;
a tabulator asks for no width, so a line with tabulators may have to be broken.

* `askedWidth`: the width that a text asks for.
* `cellLines`: the lines of a cell.
-/

namespace Taxonomy.Console

/-- **The width that a text asks for**: the cells of its longest line. -/
def askedWidth (s : String) : Nat :=
  (((anyLines [] (printable s)).map Text.cells).max?).getD 0

/-- **The lines of a cell** in a column of a width. Lines that are moved to the right have no blanks
at their ends. -/
def cellLines (right : Bool) (width : Nat) (s : String) : List String :=
  ((printable s).splitOn '\n').flatMap fun line =>
    (wrapped .dots width (expandTabs line)).map fun cs =>
      String.ofList (shorten .dots width (if right then trimEnd cs else settle width cs))

end Taxonomy.Console
