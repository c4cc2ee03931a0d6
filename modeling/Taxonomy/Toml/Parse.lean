import Taxonomy.Toml.Scalar
import Taxonomy.Toml.Tree

/-!
# Reading TOML documents

* `Toml.parse`: the table that a document denotes.
-/

namespace Taxonomy.Toml

/-- The plain value that a document names by a word. -/
def word? : List Char → Option (Value × List Char)
  | 't' :: 'r' :: 'u' :: 'e' :: rest => some (.bool true, rest)
  | 'f' :: 'a' :: 'l' :: 's' :: 'e' :: rest => some (.bool false, rest)
  | _ => none

/-- A value without values inside. -/
def scalar (cs : List Char) : Reading (Value × List Char) := do
  match cs with
  | '"' :: _ => let (s, rest) ← basicText cs; return (.str s, rest)
  | '\'' :: _ => let (s, rest) ← literalText cs; return (.str s, rest)
  | _ =>
    if let some x := word? cs then return x
    if let some x ← moment? cs then return x
    if let some x ← number? cs then return x
    match specialNumber? cs with
    | some x => return x
    | none => fail

/-- Keeps a result, or fails where there is none. -/
def orFail {α : Type} : Option α → Reading α
  | some a => pure a
  | none => fail

mutual

/-- **A value**; `fuel` bounds how much is read inside it. -/
def value : Nat → List Char → Reading (Value × List Char)
  | 0, _ => fail
  | fuel + 1, cs => do
    match cs with
    | '[' :: rest =>
      let (vs, rest) ← elements fuel (← dropGaps rest.length rest)
      return (.list vs, rest)
    | '\x7b' :: rest =>
      match dropSpaces rest with
      | '\x7d' :: rest => return (.table [], rest)
      | rest =>
        let (es, rest) ← inlineEntries fuel [] rest
        return (.table (TomlNode.entryValues es), rest)
    | cs => scalar cs

/-- The elements of an array up to its closing bracket. -/
def elements : Nat → List Char → Reading ((List Value) × List Char)
  | 0, _ => fail
  | fuel + 1, cs => do
    match cs with
    | ']' :: rest => return ([], rest)
    | cs =>
      let (v, rest) ← value fuel cs
      match ← dropGaps rest.length rest with
      | ']' :: rest => return ([v], rest)
      | ',' :: rest =>
        let (vs, rest) ← elements fuel (← dropGaps rest.length rest)
        return (v :: vs, rest)
      | _ => fail

/-- A key with its value. -/
def pair : Nat → List Char → Reading ((List String × Value) × List Char)
  | 0, _ => fail
  | fuel + 1, cs => do
    let (path, rest) ← keyPath cs
    match rest with
    | '=' :: rest =>
      let (v, rest) ← value fuel (dropSpaces rest)
      return ((path, v), rest)
    | _ => fail

/-- The entries of an inline table up to its closing brace. -/
def inlineEntries : Nat → TomlEntries → List Char → Reading (TomlEntries × List Char)
  | 0, _, _ => fail
  | fuel + 1, es, cs => do
    let ((path, v), rest) ← pair fuel cs
    let es ← orFail (TomlNode.insertAt path v es)
    match dropSpaces rest with
    | '\x7d' :: rest => return (es, rest)
    | ',' :: rest => inlineEntries fuel es (dropSpaces rest)
    | _ => fail

end

/-- **A document half read**: its tables, the path of the last header, and the paths that dotted
keys went through since then. -/
structure Progress where
  entries : TomlEntries := []
  header : List String := []
  opened : List (List String) := []
  deriving Inhabited

/-- The ways to a path, without the whole and the empty one. -/
def properWays (path : List String) : List (List String) :=
  ((List.range path.length).drop 1).map path.take

namespace Progress

/-- Takes in a key with its value. -/
def addPair (p : Progress) (path : List String) (v : Value) : Reading Progress := do
  let ways := (properWays path).map (p.header ++ ·)
  if ways.any fun way => TomlNode.isClosed way p.entries then fail
  let entries ← orFail (TomlNode.insertAt (p.header ++ path) v p.entries)
  return { p with entries, opened := p.opened ++ ways }

/-- Takes in a header. -/
def addHeader (p : Progress) (path : List String) (isItem : Bool) :
    Reading Progress := do
  let entries := p.opened.foldl (fun es way => TomlNode.closeAt way es) p.entries
  let entries ← orFail
    (if isItem then TomlNode.openItem path entries else TomlNode.openTable path entries)
  return { entries, header := path }

/-- Takes in what stands at the beginning of a line. -/
def statement (p : Progress) (cs : List Char) : Reading (Progress × List Char) := do
  match cs with
  | '[' :: '[' :: rest =>
    let (path, rest) ← keyPath (dropSpaces rest)
    match rest with
    | ']' :: ']' :: rest => return (← p.addHeader path true, rest)
    | _ => fail
  | '[' :: rest =>
    let (path, rest) ← keyPath (dropSpaces rest)
    match rest with
    | ']' :: rest => return (← p.addHeader path false, rest)
    | _ => fail
  | '#' :: _ => return (p, cs)
  | cs =>
    let ((path, v), rest) ← pair (2 * cs.length + 2) cs
    return (← p.addPair path v, rest)

/-- Takes in line after line; `fuel` bounds their number. -/
def lines : Nat → Progress → List Char → Reading Progress
  | 0, _, _ => fail
  | fuel + 1, p, cs => do
    match dropSpaces cs with
    | [] => return p
    | '\n' :: rest => lines fuel p rest
    | cs =>
      let (p, rest) ← p.statement cs
      match ← dropComment (dropSpaces rest) with
      | [] => return p
      | '\n' :: rest => lines fuel p rest
      | _ => fail

end Progress

/-- Line ends of two characters are as good as single ones. -/
def joinLineEnds : List Char → List Char
  | '\r' :: '\n' :: cs => '\n' :: joinLineEnds cs
  | c :: cs => c :: joinLineEnds cs
  | [] => []

/-- **The table that a document denotes.** -/
def parse (document : String) : Reading (List (String × Value)) := do
  let cs := joinLineEnds document.toList
  let p ← Progress.lines (cs.length + 1) {} cs
  return TomlNode.entryValues p.entries

end Taxonomy.Toml
