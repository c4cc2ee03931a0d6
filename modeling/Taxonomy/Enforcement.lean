import Taxonomy.Registry.Basic
import Taxonomy.Conversion
import Taxonomy.Text.Letter

/-!
# Enforcement

The checks that a tree asks for before it changes: may a child be attached, may an attribute take a
value? The schema of an attribute is checked first, then the constraints in order.

* `AttributeSpec.violation?`: what the schema says against a value.
* `Registry.violations`: all that stands against a value; `checkValue` fails with the first.
* `Registry.checkPlacement`: fails unless a child may be attached.
-/

namespace Taxonomy

open Text

/-- The least and the greatest number of an integer type. -/
def ValueType.bounds? : ValueType → Option (Int × Int)
  | .int => some (-0x80000000, 0x7fffffff)
  | .long => some (-0x8000000000000000, 0x7fffffffffffffff)
  | _ => none

/-- The parts of a text between points. -/
def pointedParts (s : String) : List String :=
  (s.toList.splitOn '.').map String.ofList

/-- The integer that a value is or is written as. -/
def integerOf? : Value → Option Int
  | .bool _ => none
  | .int n => some n
  | v => (readInteger (trim v.text)).toOption

namespace ValueType

/-- **Why a value is none of the type**, if it is none. Lists are looked at by their elements
before. -/
def problem? (t : ValueType) (v : Value) : Option String :=
  let unexpected (what : String) : Option String := some s!"expected {what}, got {v.shown}"
  match t with
  | .any | .stringArray => none
  | .string => match v with
    | .str _ => none
    | _ => some s!"expected a string, got {v.shortKind}"
  | .int | .long => match v with
    | .bool _ => some s!"expected {t.name}, got boolean"
    | _ => match integerOf? v, t.bounds? with
      | some n, some (low, high) =>
        if low ≤ n && n ≤ high then none else some s!"{n} is out of range for {t.name}"
      | _, _ => unexpected t.name
  | .double => match v with
    | .bool _ => some "expected double, got boolean"
    | .int _ | .float _ => none
    | _ => if (readDecimal? (trim v.text)).isSome then none else unexpected "double"
  | .boolean => match v with
    | .bool _ => none
    | _ => if ["true", "false"].contains (lower (trim v.text)) then none else unexpected "boolean"
  | .cls => match v with
    | .str s => if (pointedParts (trim s)).all isIdentifier then none
      else unexpected "a dotted class name"
    | _ => unexpected "a dotted class name"
  | .properties => match v with
    | .table _ | .str _ => none
    | _ => some s!"expected properties, got {v.shortKind}"

end ValueType

/-- Is the value a text, or a list of texts? -/
def Value.isTexts : Value → Bool
  | .str _ => true
  | .list vs | .tuple vs => vs.all fun
    | .str _ => true
    | _ => false
  | _ => false

namespace AttributeSpec

variable (a : AttributeSpec)

/-- What the schema says against one element. -/
def elementViolation? (attrName v : Value) : Option Violation :=
  match a.valueType.problem? v with
  | some problem => some ⟨"schema.value-type", s!"{attrName.text}: {problem}", attrName⟩
  | none =>
    match a.allowed with
    | some allowed =>
      if allowed.contains v.text then none
      else some ⟨"schema.allowed-values",
        s!"{attrName.text} value {v.shown} is not one of: {Fault.row allowed}", attrName⟩
    | none => none

/-- **What the schema says against a value**: the first of its elements that is not right. Null is
always right. -/
def violation? (attrName v : Value) : Option Violation :=
  match v with
  | .null => none
  | v =>
    if a.valueType == .stringArray then
      if v.isTexts then none
      else some ⟨"schema.value-type", s!"{attrName.text}: expected a list of strings", attrName⟩
    else match v with
      | .list vs | .tuple vs =>
        if a.arrayAllowed then vs.findSome? (a.elementViolation? attrName)
        else some ⟨"schema.array", s!"{attrName.text} does not accept multiple values", attrName⟩
      | v => a.elementViolation? attrName v

end AttributeSpec

/-- **What one constraint says against a value.** A reason that counts as false is none. -/
def ValidationConstraint.violation? (k : ValidationConstraint) (node : Node) (id : TypeId)
    (lineage : List TypeId) (attrName v : Value) : Result (Option Violation) := do
  if !(← k.appliesTo node attrName lineage id) then return none
  match ← k.validate node attrName v with
  | some reason => return if reason.isTruthy then some ⟨k.id, reason, attrName⟩ else none
  | none => return none

namespace Snapshot

variable (s : Snapshot)

/-- What the schema says against a value of a type's attribute. -/
def schemaViolation? (id : TypeId) (attrName v : Value) : Result (Option Violation) := do
  let some d := s.type? id | return none
  return (← d.attributeOf attrName).bind (·.violation? attrName v)

/-- The lineage of a type; of one that is not stored only itself is known. -/
def lineage (id : TypeId) : List TypeId :=
  match s.type? id with
  | some d => d.lineage
  | none => [id]

/-- **All that stands against a value.** -/
def violations (node : Node) (id : TypeId) (attrName v : Value) :
    Result (List Violation) := do
  let schema ← s.schemaViolation? id attrName v
  let found ← s.contents.validation.mapM
    (·.violation? node id (s.lineage id) attrName v)
  return schema.toList ++ found.filterMap fun x => x

/-- The first of the constraints' violations. -/
def firstViolation (node : Node) (id : TypeId) (attrName v : Value) :
    List ValidationConstraint → Result (Option Violation)
  | [] => pure none
  | k :: ks => do match ← k.violation? node id (s.lineage id) attrName v with
    | some x => return some x
    | none => firstViolation node id attrName v ks

end Snapshot

namespace Registry

variable (r : Registry)

/-- **All that stands against a value**, unless checks on the node's family are off. -/
def violations (node : Node) (attrName v : Value) : Result (List Violation) := do
  let id ← node.target
  if !r.switches.areOn id.family then return []
  r.snapshot.violations node id attrName v

/-- **Fails with the first thing that stands against a value.** -/
def checkValue (node : Node) (attrName v : Value) : Result Unit := do
  let id ← node.target
  if !r.switches.areOn id.family then return
  if let some x ← r.snapshot.schemaViolation? id attrName v then throw (.violated x)
  if let some x ← r.snapshot.firstViolation node id attrName v r.snapshot.contents.validation then
    throw (.violated x)

/-- Does nothing stand against a value? -/
def isValueValid (node : Node) (attrName v : Value) : Result Bool :=
  match r.checkValue node attrName v with
  | .ok _ => pure true
  | .error (.violated _) => pure false
  | .error f => throw f

/-- **Decides whether a child may be attached**; everything is allowed where checks on the parent's
family are off. -/
def evaluatePlacement (parent : Node) (family subtype name : Value) : Action Decision := do
  let parent ← parent.target
  if !(← get).switches.areOn parent.family then
    return { allowed := true, reason := "checking disabled" }
  evaluate parent (← TypeId.make family subtype) name

/-- **Fails unless a child may be attached.** When no constraint stands in the way, the denial
says what the parent supports. -/
def checkPlacement (parent : Node) (family subtype name : Value) : Action Unit := do
  let decision ← evaluatePlacement parent family subtype name
  if decision.allowed then return
  let parent ← parent.target
  let supported ← match decision.constraint with
    | some _ => pure ""
    | none => (← get).supportedChildren parent
  throw (.denied
    { parent, child := ← TypeId.make family subtype, childName := if name.isTruthy then name else ""
      constraint := decision.constraint, reason := decision.reason, supported })

/-- Fails unless a node may be attached under its own name. -/
def checkAddChild (parent child : Node) : Action Unit := do
  let id ← child.target
  checkPlacement parent id.family id.subtype child.name

/-- May a child be attached? -/
def canPlace (parent : Node) (family subtype name : Value) : Action Bool := do
  return (← evaluatePlacement parent family subtype name).allowed

end Registry

end Taxonomy
