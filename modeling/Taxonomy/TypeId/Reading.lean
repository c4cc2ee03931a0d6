import Taxonomy.Fault

/-!
# Reading type ids

An id is built from two parts or read from one text, in which the first point separates them.
Parts are trimmed; they are neither empty nor the wildcard.

* `TypeId.make`: an id from its parts.
* `TypeId.parse`: an id from one text.
* `TypeRef.id`: what is given where an id is wanted, an id itself or a value to read.
-/

namespace Taxonomy

/-- **A part of an id or a rule**: the trimmed text of a value, which must not be empty. -/
def cleanPart (part : Part) (given : Value) : Result String :=
  let s := match given with
    | .null => ""
    | v => Text.trim v.text
  if s == "" then throw (.emptyPart part) else pure s

/-- **The text that an id or a pattern is read from.** The values that count as false are read as
the empty text; others are texts or cannot be read. -/
def refText (given : Value) : Result String :=
  if !given.isTruthy then pure ""
  else match given with
    | .str s => pure (Text.trim s)
    | v => throw (.misfit v (.noMethod "strip"))

/-- The characters before and after the first point. -/
def splitAtPoint : List Char → Option (List Char × List Char)
  | [] => none
  | c :: cs => if c == '.' then some ([], cs) else (splitAtPoint cs).map fun (a, b) => (c :: a, b)

/-- The parts of a text around its first point. -/
def splitParts (s : String) : Option (String × String) :=
  (splitAtPoint s.toList).map fun (a, b) => (String.ofList a, String.ofList b)

namespace TypeId

/-- **An id from its parts.** -/
def make (family subtype : Value) : Result TypeId := do
  let family ← cleanPart .family family
  let subtype ← cleanPart .subtype subtype
  if family == wildcard || subtype == wildcard then throw (.wildcardInId family subtype)
  return ⟨family, subtype⟩

/-- **An id from a value**: from a text with a point. -/
def read (given : Value) : Result TypeId := do
  let some (family, subtype) := splitParts (← refText given) | throw (.malformedId given)
  make family subtype

/-- **An id from one text.** -/
def parse (s : String) : Result TypeId := read s

end TypeId

/-- **What is given where an id is wanted.** -/
inductive TypeRef where
  | id (t : TypeId)
  | value (v : Value)
  deriving Inhabited

namespace TypeRef

instance : Coe TypeId TypeRef := ⟨.id⟩

instance : Coe String TypeRef := ⟨fun s => .value s⟩

/-- The id that is meant. -/
def resolve : TypeRef → Result TypeId
  | .id t => pure t
  | .value v => TypeId.read v

/-- The text by which a message repeats what was given. -/
def text : TypeRef → String
  | .id t => t.name
  | .value v => v.text

end TypeRef

end Taxonomy
