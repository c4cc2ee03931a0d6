import Taxonomy.Conversion
import Taxonomy.Keyed
import Taxonomy.Rule.Basic
import Taxonomy.Text.Case
import Taxonomy.TypeId.Reading

/-!
# Making patterns and rules

Patterns, rules and attribute schemas from the values that callers give. Every part is trimmed and
must not be empty; names of value types are read without case.
-/

namespace Taxonomy

/-- The operation that makes something of a kind. -/
def constructor (kind : String) (positional : List Parameter) : Signature :=
  { operation := kind ++ ".__init__", bound := ["self"], positional }

namespace TypePattern

/-- A pattern from its parts. -/
def make (family subtype : Value) : Result TypePattern := do
  return ⟨← cleanPart .familyPattern family, ← cleanPart .subtypePattern subtype⟩

/-- A pattern from the arguments of a call. -/
def ofArguments (args : List Value) : Result TypePattern := do
  let s := constructor "TypePattern" [⟨"type", some wildcard⟩, ⟨"subtype", some wildcard⟩]
  let b ← s.apply args
  make (b.get "type") (b.get "subtype")

/-- **A pattern from a value**: the wildcard, or a text with a point. -/
def read (given : Value) : Result TypePattern := do
  let s ← refText given
  if s == wildcard then return {}
  let some (family, subtype) := splitParts s | throw (.malformedPattern given)
  make family subtype

/-- The pattern that is meant where an id may stand too. -/
def ofRef : TypeRef → Result TypePattern
  | .id t => pure (ofId t)
  | .value v => read v

end TypePattern

/-- **A child rule from its parts.** -/
def ChildRule.make (family subtype name : Value) (required : Bool := false) :
    Result ChildRule := do
  return ⟨← cleanPart .childFamily family, ← cleanPart .childSubtype subtype,
    ← cleanPart .namePattern name, required⟩

/-- A child rule from the arguments of a call. -/
def ChildRule.ofArguments (args : List Value) : Result ChildRule := do
  let s := constructor "ChildRule" [⟨"child_type", some wildcard⟩,
    ⟨"child_subtype", some wildcard⟩, ⟨"name_pattern", some wildcard⟩,
    ⟨"required", some (.bool false)⟩]
  let b ← s.apply args
  make (b.get "child_type") (b.get "child_subtype") (b.get "name_pattern")
    (b.get "required").isTruthy

/-- **A parent rule from its parts.** -/
def ParentRule.make (family subtype name : Value) : Result ParentRule := do
  return ⟨← cleanPart .parentFamily family, ← cleanPart .parentSubtype subtype,
    ← cleanPart .expectedName name⟩

/-- A parent rule from the arguments of a call. -/
def ParentRule.ofArguments (args : List Value) : Result ParentRule := do
  let s := constructor "ParentRule" [⟨"parent_type", some wildcard⟩,
    ⟨"parent_subtype", some wildcard⟩, ⟨"expected_name", some wildcard⟩]
  let b ← s.apply args
  make (b.get "parent_type") (b.get "parent_subtype") (b.get "expected_name")

/-- Texts in order, each once. -/
def textSet (ss : List String) : List String := distinctBy id (sortTexts ss)

namespace AttributeSpec

/-- **An attribute schema from its parts.** The allowed values are the texts of the elements of a
value, or all values where null is given. -/
def make (name : Value) (valueType : Value := "string") (required : Bool := false)
    (allowed : Value := .null) (arrayAllowed : Bool := false) : Result AttributeSpec := do
  let name ← cleanPart .attributeName name
  let typeName := Text.lower (← cleanPart .valueType valueType)
  let some valueType := ValueType.ofName? typeName | throw (.unknownValueType typeName name)
  let allowed ← match allowed with
    | .null => pure none
    | vs => do pure (some (textSet ((← elementsOf vs).map Value.text)))
  return { name, valueType, required, allowed, arrayAllowed }

/-- An attribute schema from arguments by name. -/
def ofArguments (named : List (String × Value)) : Result AttributeSpec := do
  let s := constructor "AttributeSpec" [⟨"name", none⟩, ⟨"value_type", some "string"⟩,
    ⟨"required", some (.bool false)⟩, ⟨"allowed_values", some .null⟩,
    ⟨"array_allowed", some (.bool false)⟩]
  let b ← s.apply [] named
  make (b.get "name") (b.get "value_type") (b.get "required").isTruthy (b.get "allowed_values")
    (b.get "array_allowed").isTruthy

/-- An attribute schema as a declaration gives it: equal values among the allowed ones are one
before their texts are taken. -/
def declare (name valueType : Value) (required : Bool) (allowed : Value) (arrayAllowed : Bool) :
    Result AttributeSpec := do
  let allowed ← match allowed with
    | .null => pure .null
    | vs => do pure (.list (← setOf vs))
  make name valueType required allowed arrayAllowed

end AttributeSpec

end Taxonomy
