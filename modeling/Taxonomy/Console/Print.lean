import Taxonomy.Console.Markup
import Taxonomy.Console.Wrap

/-!
# Printing

Printed text has its emoji codes replaced, and lines are broken at the width of the console.

* `plain`: a text as it is printed.
* `print`: a marked-up text as it is printed.
-/

namespace Taxonomy.Console

/-- **The width of the console**, in cells. -/
def consoleWidth : Nat := 100000

/-- The lines of a text on the console. -/
def lines (s : String) : List String :=
  ((printable s).splitOn '\n').flatMap fun line =>
    (wrapped .fold consoleWidth (expandTabs line)).map fun cs =>
      String.ofList (shorten .fold consoleWidth (settle consoleWidth cs))

/-- A text with its lines as the console shows them. -/
def shown (s : String) : String := "\n".intercalate (lines s) ++ "\n"

/-- **Prints a plain text.** -/
def plain (s : String) : String := shown (Emoji.replace s)

/-- **Prints a marked-up text.** -/
def print (s : String) : Result String := return shown (← Markup.render s)

end Taxonomy.Console
