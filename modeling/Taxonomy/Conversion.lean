import Taxonomy.Fault
import Taxonomy.Number.Numeral

/-!
# Conversions of values

What is done with values of any kind, and the faults of those of another kind.

* `Value.toInteger`: the integer that a value stands for; decimals are cut off.
* `Value.toReal`: the binary64 number that a value stands for.
* `Value.asKey`: a value as a key.
* `Value.written`, `Value.quoted`: the written forms of a value, where its integers are not too
  long.
* `elementsOf`, `setOf`: what a value consists of.
* `integerOfText`: an integer from a text, or the fault that names the text.
-/

namespace Taxonomy

/-- **An integer from a text.** -/
def integerOfText (s : String) : Result Int :=
  match readInteger s with
  | .ok n => pure n
  | .error .malformed => throw (.malformedInteger s)
  | .error (.tooLong n) => throw (.numeralTooLong (some n))

/-- A binary64 number from an integer that is not too large for it. -/
def realOfInteger (n : Int) : Result Binary64 :=
  match Binary64.ofInt? n with
  | some x => pure x
  | none => throw .integerTooLarge

namespace Value

/-- **The integer that a value stands for.** -/
def toInteger : Value → Result Int
  | .bool b => pure (if b then 1 else 0)
  | .int n => pure n
  | .float (.finite s m e) => pure (Binary64.truncate s m e)
  | .float (.infinite _) => throw .infiniteInteger
  | .float .nan => throw .nanInteger
  | .str s => integerOfText s
  | v => throw (.misfit v
      (.notConvertible "int" "a string, a bytes-like object or a real number"))

/-- **The binary64 number that a value stands for.** -/
def toReal : Value → Result Binary64
  | .bool b => realOfInteger (if b then 1 else 0)
  | .int n => realOfInteger n
  | .float x => pure x
  | .str s => match readDecimal? s with
    | some x => pure x
    | none => throw (.malformedDecimal s)
  | v => throw (.misfit v (.notConvertible "float" "a string or a real number"))

mutual

/-- Is there an integer inside that has more digits than are written? -/
def isTooLong : Value → Bool
  | .int n => 10 ^ maxDigits ≤ n.natAbs
  | .list vs | .tuple vs => anyTooLong vs
  | .table es => anyEntryTooLong es
  | _ => false

/-- Is there such an integer among several values? -/
def anyTooLong : List Value → Bool
  | [] => false
  | v :: vs => isTooLong v || anyTooLong vs

/-- Is there such an integer among the values of entries? -/
def anyEntryTooLong : List (String × Value) → Bool
  | [] => false
  | (_, v) :: es => isTooLong v || anyEntryTooLong es

end

/-- **The text of a value**, unless an integer in it is too long. -/
def written (v : Value) : Result String :=
  if v.isTooLong then throw (.numeralTooLong none) else pure v.text

/-- **The shown form of a value**, unless an integer in it is too long. -/
def quoted (v : Value) : Result String :=
  if v.isTooLong then throw (.numeralTooLong none) else pure v.shown

/-- **A value as a key.** Lists and tables are none, and neither are tuples that hold one. -/
def asKey (v : Value) : Result Value :=
  match v.unhashable? with
  | some u => throw (.misfit u .unhashable)
  | none => pure v

end Value

/-- The elements of a value that is iterated over. -/
def elementsOf (v : Value) : Result (List Value) :=
  match v.iterate? with
  | some vs => pure vs
  | none => throw (.misfit v .notIterable)

/-- The first of each group of values that are one as set elements. -/
def distinctValues : List Value → List Value → List Value
  | _, [] => []
  | seen, v :: vs =>
    if seen.any (v.same ·) then distinctValues seen vs else v :: distinctValues (v :: seen) vs

/-- **The elements of a value as a set**, unless one of them cannot be an element. -/
def setOf (v : Value) : Result (List Value) := do
  return distinctValues [] (← (← elementsOf v).mapM Value.asKey)

end Taxonomy
