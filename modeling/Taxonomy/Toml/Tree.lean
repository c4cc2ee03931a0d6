import Taxonomy.Value

/-!
# The tables of a TOML document

A document builds a tree of tables. A table may be opened once by a header; one that dotted keys
opened is closed at the next header; what is given as a value is not added to.

* `TomlNode.insertAt`: a value under a path of keys.
* `TomlNode.openTable`, `.openItem`: the headers.
-/

namespace Taxonomy

/-- **A node of a document**: a value, a table, or a row of tables of which the last one is added
to. A closed table is not opened again. -/
inductive TomlNode where
  | value (v : Value)
  | table (closed : Bool) (entries : List (String × TomlNode))
  | tables (items : List (List (String × TomlNode)))
  deriving Inhabited

/-- The entries of a table of a document. -/
abbrev TomlEntries := List (String × TomlNode)

namespace TomlNode

mutual

/-- The node as a value. -/
def toValue : TomlNode → Value
  | value v => v
  | table _ es => .table (entryValues es)
  | tables items => .list (itemValues items)

/-- Entries as values. -/
def entryValues : List (String × TomlNode) → List (String × Value)
  | [] => []
  | (k, n) :: es => (k, toValue n) :: entryValues es

/-- Tables of a row as values. -/
def itemValues : List (List (String × TomlNode)) → List Value
  | [] => []
  | es :: items => .table (entryValues es) :: itemValues items

end

/-- Changes the last table of a row. -/
def changeLast (f : TomlEntries → Option TomlEntries) :
    List TomlEntries → Option (List TomlEntries)
  | [] => none
  | [es] => (f es).map fun es => [es]
  | item :: items => (changeLast f items).map (item :: ·)

/-- **Changes the table at the end of a path**, opening tables that are not there yet. Through a row
of tables the path goes on in its last one, through a value it does not. -/
def changeAt (f : TomlEntries → Option TomlEntries) : List String → TomlEntries → Option TomlEntries
  | [], es => f es
  | k :: path, es => do
    let node ← match (es.lookup k).getD (.table false []) with
      | table closed inner => (changeAt f path inner).map (table closed)
      | tables items => (changeLast (changeAt f path) items).map tables
      | value _ => none
    some (put k node es)
where
  /-- Puts a node under a key. -/
  put (k : String) (node : TomlNode) : TomlEntries → TomlEntries
    | [] => [(k, node)]
    | (k', n) :: es => if k' == k then (k, node) :: es else (k', n) :: put k node es

/-- The node at the end of a path. -/
def at? : List String → TomlEntries → Option TomlNode
  | [], _ => none
  | [k], es => es.lookup k
  | k :: path, es =>
    match es.lookup k with
    | some (table _ inner) => at? path inner
    | some (tables items) => at? path (items.getLast?.getD [])
    | _ => none

/-- Is a table at the path, or a row of them, that dotted keys must not go through? -/
def isClosed (path : List String) (es : TomlEntries) : Bool :=
  match at? path es with
  | some (table closed _) => closed
  | some (tables _) => true
  | _ => false

/-- Splits a path into the way and its last key. -/
def splitLast (path : List String) : Option (List String × String) :=
  path.getLast?.map fun k => (path.dropLast, k)

/-- **Puts a value under a path**, where nothing may be yet. -/
def insertAt (path : List String) (v : Value) (es : TomlEntries) : Option TomlEntries := do
  let (way, k) ← splitLast path
  changeAt (fun es => if (es.lookup k).isSome then none else some (es ++ [(k, value v)])) way es

/-- Closes the table at a path. -/
def closeAt (path : List String) (es : TomlEntries) : TomlEntries :=
  let closed := do
    let (way, k) ← splitLast path
    changeAt (fun es => match es.lookup k with
      | some (table _ inner) => some (changeAt.put k (table true inner) es)
      | _ => none) way es
  closed.getD es

/-- **The header of a table**: it opens the table, once. -/
def openTable (path : List String) (es : TomlEntries) : Option TomlEntries := do
  let (way, k) ← splitLast path
  changeAt (fun es => match es.lookup k with
    | none => some (es ++ [(k, table true [])])
    | some (table false inner) => some (changeAt.put k (table true inner) es)
    | _ => none) way es

/-- **The header of a row of tables**: it opens the next one. -/
def openItem (path : List String) (es : TomlEntries) : Option TomlEntries := do
  let (way, k) ← splitLast path
  changeAt (fun es => match es.lookup k with
    | none => some (es ++ [(k, tables [[]])])
    | some (tables items) => some (changeAt.put k (tables (items ++ [[]])) es)
    | _ => none) way es

end TomlNode

end Taxonomy
