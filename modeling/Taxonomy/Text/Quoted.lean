import Taxonomy.Text.Printable

/-!
# Quoted texts

A text between quotes, on one line and in printable characters. Double quotes are chosen when the
text holds single quotes and no double ones; all that is not printable is escaped by its code
point.
-/

namespace Taxonomy.Text

/-- A number in lower-case hexadecimal digits, filled with zeros up to a width. -/
def hex (width n : Nat) : List Char :=
  let ds := Nat.toDigits 16 n
  List.replicate (width - ds.length) '0' ++ ds

/-- **A character between quotes**: the quote and the backslash are escaped, the usual controls by
their letters, other characters that are not printable by their code points. -/
def quoteChar (quote c : Char) : List Char :=
  if c == quote || c == '\\' then ['\\', c]
  else if c == '\n' then ['\\', 'n']
  else if c == '\r' then ['\\', 'r']
  else if c == '\t' then ['\\', 't']
  else if isPrintable c then [c]
  else if c.toNat < 0x100 then '\\' :: 'x' :: hex 2 c.toNat
  else if c.toNat < 0x10000 then '\\' :: 'u' :: hex 4 c.toNat
  else '\\' :: 'U' :: hex 8 c.toNat

/-- The quote that a text is put in. -/
def quoteMark (cs : List Char) : Char :=
  if cs.contains '\'' && !cs.contains '"' then '"' else '\''

/-- **The quoted form of a text.** -/
def quote (s : String) : String :=
  let q := quoteMark s.toList
  String.ofList (q :: s.toList.flatMap (quoteChar q) ++ [q])

end Taxonomy.Text
