import Taxonomy.Draft

/-!
# Clauses by name

A clause is asked for by the name of an operation on a draft, with arguments by position and by
name.

* `Clause.ofCall`: the clauses that a call amounts to.
* `Clause.ofCalls`: the clauses of several calls; a call that is not understood fails in its turn.
-/

namespace Taxonomy

/-- **A call of an operation by its name.** -/
structure Call where
  operation : String
  args : List Value := []
  named : List (String × Value) := []
  deriving Inhabited

namespace Clause

/-- An operation that is the same on drafts of types and of extensions. -/
def shared (name : String) (positional : List Parameter) (named : List Parameter := []) :
    Signature :=
  { operation := "_RuleMixin." ++ name, bound := ["self"], positional, named }

/-- The parts of a rule as parameters, each of which may be left out. -/
def wildcards (names : List String) : List Parameter := names.map (⟨·, some wildcard⟩)

/-- The parts of a rule as parameters, none of which may be left out. -/
def parts (names : List String) : List Parameter := names.map (⟨·, none⟩)

/-- The names of the parts of a child rule. -/
def childParts : List String := ["child_type", "child_subtype", "name"]

/-- The names of the parts of a parent rule. -/
def parentParts : List String := ["parent_type", "parent_subtype", "expected_name"]

/-- The name of an attribute and the type of its values. -/
def attributeParts : List Parameter := [⟨"name", none⟩, ⟨"value_type", some "string"⟩]

/-- The operation that declares an attribute. -/
def attributeSignature : Signature := shared "attribute" attributeParts
  [⟨"required", some (.bool false)⟩, ⟨"allowed_values", some .null⟩,
    ⟨"array_allowed", some (.bool false)⟩]

/-- The attribute that a call declares. -/
def declared (args : List Value) (named : List (String × Value)) : Result Clause := do
  let b ← attributeSignature.apply args named
  return .attribute (b.get "name") (b.get "value_type") (b.get "required").isTruthy
    (b.get "allowed_values") (b.get "array_allowed").isTruthy

/-- The attribute that a call declares of which it is settled whether it is required. -/
def settled (operation : String) (required : Bool) (c : Call) : Result Clause := do
  let s := { shared operation attributeParts with takesOthers := true }
  let b ← s.apply c.args c.named
  if (b.others.lookup "required").isSome then
    throw (.call s!"metatypes.registry.builder.{attributeSignature.operation}"
      (.repeatedName "required"))
  declared [b.get "name", b.get "value_type"] (("required", .bool required) :: b.others)

/-- The children that a call accepts. -/
def accepted (c : Call) (positional named : List Parameter) (required : Bool := false) :
    Result Clause := do
  let b ← (shared c.operation positional named).apply c.args c.named
  return .acceptChildren (b.get "child_type") (b.get "child_subtype") (b.get "name")
    (required || (b.get "required").isTruthy)

/-- An operation on drafts of types alone. -/
def ofType (name : String) (positional : List Parameter) : Signature :=
  { operation := "TypeDefinitionBuilder." ++ name, bound := ["self"], positional }

/-- **The clauses that a call amounts to**, on a draft of a type or of an extension; `ref` tells
what is meant by a value that stands for an id. An extension has a description instead of an
operation of that name, and no operation that names a parent. -/
def ofCall (onExtension : Bool) (ref : Value → Result TypeRef) (c : Call) :
    Result (List Clause) := do
  match c.operation with
  | "description" =>
    if onExtension then return [.describe .null]
    let b ← (ofType c.operation [⟨"text", none⟩]).apply c.args c.named
    return [.describe (b.get "text")]
  | "inherits_from" =>
    if onExtension then throw (.unknownOperation "TypeExtensionBuilder" c.operation)
    let b ← (ofType c.operation [⟨"parent", none⟩, ⟨"parent_subtype", some .null⟩]).apply
      c.args c.named
    let parent ← ref (b.get "parent")
    return match b.get "parent_subtype" with
      | .null => [.inherit parent]
      | subtype => [.inheritParts parent.text subtype]
  | "accepts_children" =>
    return [← accepted c (wildcards childParts) [⟨"required", some (.bool false)⟩]]
  | "accepts_named_children" => return [← accepted c (parts childParts) []]
  | "required_child" => return [← accepted c (parts childParts) [] true]
  | "accepts_parents" =>
    let b ← (shared c.operation (wildcards parentParts)).apply c.args c.named
    return [.acceptParents (b.get "parent_type") (b.get "parent_subtype") (b.get "expected_name")]
  | "attribute" => return [← declared c.args c.named]
  | "optional_attribute" => return [← settled c.operation false c]
  | "required_attribute" => return [← settled c.operation true c]
  | "optional_attributes" =>
    let s := { shared c.operation [⟨"value_type", none⟩] with takesRest := true }
    let b ← s.apply c.args c.named
    return b.rest.map fun name => .attribute name (b.get "value_type")
  | _ =>
    let kind := if onExtension then "TypeExtensionBuilder" else "TypeDefinitionBuilder"
    throw (.unknownOperation kind c.operation)

/-- **The clauses of several calls.** A call that is not understood fails in its turn. -/
def ofCalls (onExtension : Bool) (ref : Value → Result TypeRef) (calls : List Call) :
    List Clause :=
  calls.flatMap fun c => match ofCall onExtension ref c with
    | .ok clauses => clauses
    | .error f => [.refused f]

end Clause

end Taxonomy
