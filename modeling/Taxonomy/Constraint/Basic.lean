import Taxonomy.Rule.Reading

/-!
# Constraints

Conditions beyond the rules of types: on placing a child under a parent, and on giving a value to
an attribute. A constraint selects the types that it is about by patterns; as a rule it is about
their descendants too.

* `PlacementConstraint.appliesTo`, `.allows`: is the constraint about a placement, and does it
  permit it?
* `ValidationConstraint.appliesTo`, `.validate`: is the constraint about an attribute, and why does
  it reject a value?
-/

namespace Taxonomy

/-- **Does a pattern select a type?** With descendants, one type of the lineage is enough. -/
def selects (p : TypePattern) (t : TypeId) (lineage : List TypeId) (descendants : Bool) : Bool :=
  if descendants then (if lineage.isEmpty then [t] else lineage).any p.matches else p.matches t

/-- **A proposed placement**, with the lineages of both types as far as they are known. -/
structure PlacementContext where
  parent : TypeId
  child : TypeId
  /-- The name that the child is to bear; null where it bears none. -/
  childName : Value := .null
  parentLineage : List TypeId := []
  childLineage : List TypeId := []
  deriving DecidableEq, Repr, Inhabited

namespace PlacementContext

/-- Is the parent, or one of its ancestors, covered by the pattern? -/
def parentIs (c : PlacementContext) (p : TypePattern) : Bool :=
  selects p c.parent c.parentLineage true

/-- Is the child, or one of its ancestors, covered by the pattern? -/
def childIs (c : PlacementContext) (p : TypePattern) : Bool :=
  selects p c.child c.childLineage true

end PlacementContext

/-- **A node of a tree**, as far as checks look at it: an id alone, an id with a name and
attributes, or a value that may name an id. -/
inductive Node where
  | id (t : TypeId)
  | named (t : TypeId) (name : Value) (attributes : List (String × Value))
  | value (v : Value)
  deriving Inhabited

namespace Node

/-- The name of a node; null where it bears none. -/
def name : Node → Value
  | named _ name _ => name
  | _ => .null

/-- The operation that makes a named node; its attributes are arguments by name. -/
def signature : Signature where
  operation := "NodeRef.of"
  bound := ["cls"]
  positional := [⟨"type_id", none⟩, ⟨"name", some ""⟩]
  takesOthers := true

/-- **A named node** from its id, its name and its attributes. -/
def make (type : TypeRef) (name : Value) (attributes : List (String × Value)) : Result Node := do
  let arguments ← signature.apply [type.text, name] attributes
  return named (← type.resolve) name arguments.others

/-- The id of a node; a value is read as one. -/
def read : Node → Result TypeId
  | id t | named t .. => pure t
  | value v => TypeId.read v

/-- The id of a node; of the values only texts name one. -/
def target : Node → Result TypeId
  | id t | named t .. => pure t
  | value (.str s) => TypeId.parse s
  | value v => throw (.notATarget v)

end Node

/-- The id of a constraint from a value: a text that is not blank. -/
def readConstraintId (given : Value) : Result String :=
  let s := if given.isTruthy then Text.trim given.text else ""
  if s == "" then throw .constraintIdMissing else pure s

/-- **A condition on placements.** The check permits; where `applies` is given, the constraint is
about nothing but what it holds for. -/
structure PlacementConstraint where
  id : String
  description : Value := ""
  check : PlacementContext → Result Bool
  applies : Option (PlacementContext → Result Bool) := none
  parent : TypePattern := {}
  child : TypePattern := {}
  descendants : Bool := true

namespace PlacementConstraint

/-- A condition on placements whose id and patterns are read from values. -/
def make (id description : Value) (check : PlacementContext → Result Bool)
    (applies : Option (PlacementContext → Result Bool) := none) (parent : Value := wildcard)
    (child : Value := wildcard) (descendants : Bool := true) : Result PlacementConstraint := do
  return { id := ← readConstraintId id, description, check, applies, descendants
           parent := ← TypePattern.read parent, child := ← TypePattern.read child }

/-- **Is the constraint about a placement?** -/
def appliesTo (k : PlacementConstraint) (c : PlacementContext) : Result Bool :=
  if !selects k.parent c.parent c.parentLineage k.descendants then pure false
  else if !selects k.child c.child c.childLineage k.descendants then pure false
  else match k.applies with
    | some applies => applies c
    | none => pure true

/-- **Does the constraint permit a placement?** -/
def allows (k : PlacementConstraint) (c : PlacementContext) : Result Bool := k.check c

/-- Does the constraint stand in the way of a placement? -/
def denies (k : PlacementConstraint) (c : PlacementContext) : Result Bool := do
  if ← k.appliesTo c then return !(← k.allows c) else return false

end PlacementConstraint

/-- **A condition on attribute values.** The check gives the reason why a value is rejected, and
none for a value that passes. -/
structure ValidationConstraint where
  id : String
  description : Value := ""
  check : Node → Value → Value → Result (Option Value)
  applies : Option (Node → Value → Result Bool) := none
  target : TypePattern := {}
  attrName : String := wildcard
  descendants : Bool := true

namespace ValidationConstraint

/-- A condition on attribute values whose id, pattern and attribute are read from values. -/
def make (id description : Value)
    (check : Node → Value → Value → Result (Option Value))
    (applies : Option (Node → Value → Result Bool) := none) (target : Value := wildcard)
    (attrName : Value := wildcard) (descendants : Bool := true) : Result ValidationConstraint := do
  let name := if attrName.isTruthy then Text.trim attrName.text else ""
  return { id := ← readConstraintId id, description, check, applies, descendants
           target := ← TypePattern.read target
           attrName := if name == "" then wildcard else name }

/-- **Is the constraint about an attribute of a node?** The type is the node's own unless another
one is given. -/
def appliesTo (k : ValidationConstraint) (node : Node) (attrName : Value)
    (lineage : List TypeId := []) (type : Option TypeId := none) : Result Bool := do
  if !covers k.attrName attrName then return false
  let t ← match type with
    | some t => pure t
    | none => node.read
  if !selects k.target t lineage k.descendants then return false
  match k.applies with
  | some applies => applies node attrName
  | none => return true

/-- **Why the constraint rejects a value**, if it does. -/
def validate (k : ValidationConstraint) (node : Node) (attrName value : Value) :
    Result (Option Value) := k.check node attrName value

end ValidationConstraint

/-- **A constraint** of either kind. -/
inductive Constraint where
  | placement (k : PlacementConstraint)
  | validation (k : ValidationConstraint)

/-- The id of a constraint. -/
def Constraint.id : Constraint → String
  | placement k => k.id
  | validation k => k.id

/-- **What is given where a constraint is wanted.** -/
inductive ConstraintRef where
  | constraint (k : Constraint)
  | value (v : Value)

namespace ConstraintRef

instance : Coe Constraint ConstraintRef := ⟨.constraint⟩

/-- The constraint that is meant. -/
def resolve : ConstraintRef → Result Constraint
  | constraint k => pure k
  | value v => throw (.notAConstraint v)

end ConstraintRef

/-- The kinds of constraints. -/
inductive ConstraintKind where
  | placement
  | validation
  deriving DecidableEq, Repr, Inhabited

namespace ConstraintKind

/-- The name of a kind. -/
def name : ConstraintKind → String
  | placement => "placement"
  | validation => "validation"

/-- The operation that makes constraints of a kind. -/
def builder (k : ConstraintKind) : String := k.name ++ "_constraint"

end ConstraintKind

end Taxonomy
