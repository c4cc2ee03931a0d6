import Taxonomy.Moment

/-!
# Blanks, comments, keys and texts of TOML documents

The lexical parts of a document. A reader takes the characters that are left and gives what it read
with the characters behind it.

* `Toml.dropComment`: the rest of a line from `#` on.
* `Toml.basicText`, `Toml.literalText`: texts between quotes, on one line or on several.
* `Toml.keyPath`: a key, whose parts are joined by points.
-/

namespace Taxonomy

/-- Why a document cannot be read: it is malformed, or it holds an integer that is too long. -/
inductive TomlFault where
  | malformed
  | numeralTooLong (digits : Nat)
  deriving DecidableEq, Repr

namespace Toml

/-- **What a reader gives**, or why it cannot read on. -/
abbrev Reading := Except TomlFault

/-- Nothing can be read here. -/
def fail {α : Type} : Reading α := .error .malformed

/-- The blanks within a line. -/
def isSpace (c : Char) : Bool := c == ' ' || c == '\t'

/-- The blanks between lines. -/
def isGap (c : Char) : Bool := isSpace c || c == '\n'

/-- The control characters that stand nowhere but, perhaps, as line ends. -/
def isControl (c : Char) : Bool := (c.toNat < 0x20 && c != '\t') || c.toNat == 0x7f

/-- Without the blanks in front. -/
def dropSpaces (cs : List Char) : List Char := cs.dropWhile isSpace

/-- **Without a comment in front**, up to the end of the line. -/
def dropComment : List Char → Reading (List Char)
  | '#' :: cs =>
    if (cs.takeWhile (· != '\n')).any isControl then fail else pure (cs.dropWhile (· != '\n'))
  | cs => pure cs

/-- Without the blanks, line ends and comments in front; `fuel` bounds the number of comments. -/
def dropGaps : Nat → List Char → Reading (List Char)
  | 0, cs => pure cs
  | fuel + 1, cs =>
    match cs.dropWhile isGap with
    | '#' :: rest => do dropGaps fuel (← dropComment ('#' :: rest))
    | rest => pure rest

/-- The value of a hexadecimal digit. -/
def hexDigit? (c : Char) : Option Nat :=
  if c.isDigit then some (c.toNat - 0x30)
  else if 'a' ≤ c && c ≤ 'f' then some (c.toNat - 0x57)
  else if 'A' ≤ c && c ≤ 'F' then some (c.toNat - 0x37)
  else none

/-- The character whose code point is written in so many hexadecimal digits. -/
def codePoint (width : Nat) (cs : List Char) : Reading (Char × List Char) := do
  let some ds := (cs.take width).mapM hexDigit? | fail
  let n := ds.foldl (fun n d => 16 * n + d) 0
  if ds.length != width || !n.isValidChar then fail
  return (Char.ofNat n, cs.drop width)

/-- The characters that a backslash and a letter stand for. -/
def escapes : List (Char × Char) :=
  [('b', '\x08'), ('t', '\t'), ('n', '\n'), ('f', '\x0c'), ('r', '\r'), ('"', '"'), ('\\', '\\')]

/-- What stands behind a backslash: a character, or in texts of several lines a line end, which
swallows the blanks behind it. -/
def escape (multiline : Bool) (cs : List Char) : Reading ((List Char) × List Char) :=
  match cs with
  | [] => fail
  | c :: rest =>
    if multiline && isGap c then
      match cs.dropWhile isSpace with
      | [] => pure ([], [])
      | d :: more => if d == '\n' then pure ([], more.dropWhile isGap) else fail
    else if c == 'u' then do let (d, rest) ← codePoint 4 rest; return ([d], rest)
    else if c == 'U' then do let (d, rest) ← codePoint 8 rest; return ([d], rest)
    else match escapes.lookup c with
      | some d => pure ([d], rest)
      | none => fail

/-- The characters of a basic text up to its closing quotes, those read so far in reverse. -/
def basicBody (multiline : Bool) : Nat → List Char → List Char → Reading ((List Char) × List Char)
  | 0, _, _ => fail
  | fuel + 1, acc, cs =>
    match cs with
    | [] => fail
    | '"' :: rest =>
      if !multiline then pure (acc.reverse, rest)
      else match rest with
        | '"' :: '"' :: rest => pure (acc.reverse, rest)
        | _ => basicBody multiline fuel ('"' :: acc) rest
    | '\\' :: rest => do
      let (image, rest) ← escape multiline rest
      basicBody multiline fuel (image.reverse ++ acc) rest
    | c :: rest =>
      if isControl c && !(multiline && c == '\n') then fail
      else basicBody multiline fuel (c :: acc) rest

/-- The characters of a literal text up to its closing quotes. -/
def literalBody (multiline : Bool) : List Char → List Char → Reading ((List Char) × List Char)
  | _, [] => fail
  | acc, '\'' :: rest =>
    if !multiline then pure (acc.reverse, rest)
    else match rest with
      | '\'' :: '\'' :: rest => pure (acc.reverse, rest)
      | _ => literalBody multiline ('\'' :: acc) rest
  | acc, c :: rest =>
    if isControl c && !(multiline && c == '\n') then fail else literalBody multiline (c :: acc) rest

/-- Up to two quotes behind the closing ones belong to a text of several lines. -/
def trailingQuotes (quote : Char) (body rest : List Char) : List Char × List Char :=
  let extra := (rest.take 2).takeWhile (· == quote)
  (body ++ extra, rest.drop extra.length)

/-- A line end directly behind the opening quotes does not belong to the text. -/
def dropFirstLineEnd : List Char → List Char
  | '\n' :: cs => cs
  | cs => cs

/-- **A basic text**, on one line or between three quotes on several. -/
def basicText (cs : List Char) : Reading (String × List Char) := do
  match cs with
  | '"' :: '"' :: '"' :: rest =>
    let (body, rest) ← basicBody true (rest.length + 1) [] (dropFirstLineEnd rest)
    let (body, rest) := trailingQuotes '"' body rest
    return (String.ofList body, rest)
  | '"' :: rest =>
    let (body, rest) ← basicBody false (rest.length + 1) [] rest
    return (String.ofList body, rest)
  | _ => fail

/-- **A literal text**, on one line or between three quotes on several. -/
def literalText (cs : List Char) : Reading (String × List Char) := do
  match cs with
  | '\'' :: '\'' :: '\'' :: rest =>
    let (body, rest) ← literalBody true [] (dropFirstLineEnd rest)
    let (body, rest) := trailingQuotes '\'' body rest
    return (String.ofList body, rest)
  | '\'' :: rest =>
    let (body, rest) ← literalBody false [] rest
    return (String.ofList body, rest)
  | _ => fail

/-- The characters of keys without quotes. -/
def isBareKey (c : Char) : Bool := c.isAlphanum || c == '-' || c == '_'

/-- One part of a key: bare, or a text on one line. -/
def keyPart (cs : List Char) : Reading (String × List Char) := do
  match cs with
  | '"' :: rest =>
    let (body, rest) ← basicBody false (rest.length + 1) [] rest
    return (String.ofList body, rest)
  | '\'' :: rest =>
    let (body, rest) ← literalBody false [] rest
    return (String.ofList body, rest)
  | cs =>
    let name := cs.takeWhile isBareKey
    if name.isEmpty then fail else pure (String.ofList name, cs.dropWhile isBareKey)

/-- The parts of a key behind the first one; `fuel` bounds their number. -/
def keyParts : Nat → List Char → Reading ((List String) × List Char)
  | 0, _ => fail
  | fuel + 1, cs => do
    let (part, rest) ← keyPart cs
    match dropSpaces rest with
    | '.' :: rest => do
      let (parts, rest) ← keyParts fuel (dropSpaces rest)
      return (part :: parts, rest)
    | rest => return ([part], rest)

/-- **A key**, with blanks around its points; the blanks behind it are read too. -/
def keyPath (cs : List Char) : Reading ((List String) × List Char) := keyParts (cs.length + 1) cs

end Toml

end Taxonomy
