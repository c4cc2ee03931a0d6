import Taxonomy.Console.Handler.Expression
import Taxonomy.Fault
import Taxonomy.Text.Blank

/-!
# Handlers

What the tag of a handler is given: a name, arguments between brackets, or both. The arguments must
be literals.

* `Handler.check`: refuses a text that is no handler.
-/

namespace Taxonomy.Handler

mutual

/-- The kind of a literal that cannot be an element of a set, if it is one. -/
def Node.unhashable? : Node → Option String
  | .table _ => some "dict"
  | .set _ | .emptySet => some "set"
  | .tuple parts => unhashablePart? parts
  | _ => none

/-- The first kind of a part that keeps a tuple from being an element of a set. -/
def unhashablePart? : List Node → Option String
  | [] => none
  | part :: parts => part.unhashable?.or (unhashablePart? parts)

end

/-- Is this a number that is not imaginary, with at most one sign? -/
def Node.isReal : Node → Bool
  | .number imaginary | .signed (.number imaginary) => !imaginary
  | _ => false

/-- The complaint about an element that a set cannot hold. -/
def hashable (a : Node) : Except String Unit :=
  match a.unhashable? with
  | some kind => throw s!"unhashable type: '{kind}'"
  | none => return

/-- The complaint about what is no literal. -/
def notLiteral : String := "malformed node or string on line 1"

mutual

/-- **Refuses what is no literal**, and sets and tables of what they cannot hold. -/
def Node.evaluate : Node → Except String Unit
  | .constant _ | .number _ | .emptySet => return
  | .signed (.number _) => return
  | .sum left right =>
    match right with
    | .number true => if left.isReal then return else throw notLiteral
    | _ => throw notLiteral
  | .tuple parts => evaluateParts false parts
  | .set parts => evaluateParts true parts
  | .table entries => evaluateEntries entries
  | .signed _ | .name _ | .other _ => throw notLiteral

/-- Refuses parts that are no literals, or that a set cannot hold if they belong to one. -/
def evaluateParts (inSet : Bool) : List Node → Except String Unit
  | [] => return
  | part :: parts => do
    part.evaluate
    if inSet then hashable part
    evaluateParts inSet parts

/-- Refuses entries of a table whose keys or values are no literals. -/
def evaluateEntries : List (Node × Node) → Except String Unit
  | [] => return
  | entry :: entries => do
    evaluateEntry entry
    evaluateEntries entries

/-- Refuses an entry whose key or value is no literal. -/
def evaluateEntry : Node × Node → Except String Unit
  | (.other "starred", _) => throw "malformed node or string: None"
  | (key, value) => do
    key.evaluate
    value.evaluate
    hashable key

end

/-- The arguments of a handler: what follows the name if that is between brackets,
nothing if there is only a name, and else the whole text. -/
def callArguments (given : String) : String :=
  let text := Text.trim given
  let rest := text.toList.dropWhile fun c => Text.isWordChar c || c == '.'
  if rest.isEmpty then "()"
  else if rest.head? == some '(' && rest.getLast? == some ')' && !rest.contains '\n' then
    String.ofList rest
  else text

/-- **Refuses a text that is no handler.** -/
def check (given : String) : Result Unit := do
  let text := callArguments given
  if text.contains '\x00' then
    throw (.badHandler
      s!"error parsing {Text.quote given}; source code string cannot contain null bytes")
  match Node.read text with
  | .error message =>
    throw (.badHandler s!"error parsing {Text.quote text} in {Text.quote given}; {message}")
  | .ok node =>
    match node.evaluate with
    | .error message => throw (.badHandler s!"error parsing {Text.quote given}; {message}")
    | .ok () => return

end Taxonomy.Handler
