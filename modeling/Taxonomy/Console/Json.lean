import Taxonomy.Text.Quoted
import Taxonomy.Value

/-!
# Values as JSON

Values are written with two blanks of indentation and in ASCII; other characters are escaped, those
beyond the first plane in two halves.
-/

namespace Taxonomy.Json

/-- A unit of sixteen bits as an escape. -/
def unitEscape (n : Nat) : List Char := '\\' :: 'u' :: Text.hex 4 n

/-- A character between the quotes. -/
def charText (c : Char) : List Char :=
  match c with
  | '"' => ['\\', '"']
  | '\\' => ['\\', '\\']
  | '\n' => ['\\', 'n']
  | '\r' => ['\\', 'r']
  | '\t' => ['\\', 't']
  | '\x08' => ['\\', 'b']
  | '\x0c' => ['\\', 'f']
  | c =>
    let n := c.toNat
    if 0x20 ≤ n && n < 0x7f then [c]
    else if n < 0x10000 then unitEscape n
    else unitEscape (0xd800 + (n - 0x10000) / 0x400) ++ unitEscape (0xdc00 + n % 0x400)

/-- A text between quotes. -/
def quoted (s : String) : String := String.ofList ('"' :: s.toList.flatMap charText ++ ['"'])

/-- A number; infinities and NaN are written as words. -/
def numberText : Binary64 → String
  | .nan => "NaN"
  | .infinite negative => if negative then "-Infinity" else "Infinity"
  | x => x.text

/-- The beginning of a line at a depth. -/
def newLine (depth : Nat) : String := "\n" ++ String.ofList (List.replicate (2 * depth) ' ')

/-- Parts between brackets, each on a line of its own. -/
def bracketed (opening closing : String) (depth : Nat) (parts : List String) : String :=
  if parts.isEmpty then opening ++ closing
  else opening ++ newLine (depth + 1) ++ ("," ++ newLine (depth + 1)).intercalate parts ++
    newLine depth ++ closing

mutual

/-- A value at a depth. -/
def textAt (depth : Nat) : Value → String
  | .null => "null"
  | .bool b => if b then "true" else "false"
  | .int n => toString n
  | .float x => numberText x
  | .str s => quoted s
  | .list vs | .tuple vs => bracketed "[" "]" depth (textsAt (depth + 1) vs)
  | .table es => bracketed "\x7b" "\x7d" depth (entriesAt (depth + 1) es)
  | .moment m => quoted m.text

/-- Values at a depth. -/
def textsAt (depth : Nat) : List Value → List String
  | [] => []
  | v :: vs => textAt depth v :: textsAt depth vs

/-- Entries of a table at a depth. -/
def entriesAt (depth : Nat) : List (String × Value) → List String
  | [] => []
  | (k, v) :: es => (quoted k ++ ": " ++ textAt depth v) :: entriesAt depth es

end

/-- **A value as JSON.** -/
def text (v : Value) : String := textAt 0 v

end Taxonomy.Json
