import Taxonomy.Conversion
import Taxonomy.Rule.Rules

/-!
# Type definitions

What is declared about a type, what extensions add to it, and the definition that results once its
ancestors are known.

* `Declaration`: what the module that registers a type says about it.
* `Extension`: what another module adds.
* `Standing`: whether the chain of parents is complete, and then what is inherited.
* `TypeDefinition.effective`: the direct rules with the inherited ones behind them.
-/

namespace Taxonomy

/-- **What a module declares about a type.** -/
structure Declaration extends Rules where
  id : TypeId
  parent : Option TypeId := none
  /-- What the type is for; a text, or any other value that a module gives. -/
  description : Value := ""
  scope : Option Value := none
  deriving DecidableEq, Repr, Inhabited

/-- **What a module adds to a type** that is registered already. -/
structure Extension extends Rules where
  scope : Option Value := none
  deriving DecidableEq, Repr, Inhabited

/-- What a type has from its ancestors, the nearest first. -/
structure Heritage extends Rules where
  ancestors : List TypeId
  deriving DecidableEq, Repr, Inhabited

/-- **Where a type stands in the chains of parents.** -/
inductive Standing where
  /-- It has no parent. -/
  | root
  /-- All its ancestors are known. -/
  | resolved (heritage : Heritage)
  /-- An ancestor is not registered, or is itself not resolved. -/
  | deferred
  /-- Its chain of parents comes back to a type of the chain. -/
  | cyclic
  deriving DecidableEq, Repr, Inhabited

namespace Standing

/-- The name of a standing. -/
def name : Standing → String
  | root => "root"
  | resolved _ => "resolved"
  | deferred => "deferred"
  | cyclic => "cyclic"

/-- Are all ancestors known? -/
def isResolved : Standing → Bool
  | root | resolved _ => true
  | deferred | cyclic => false

end Standing

/-- **The stored definition of a type**: its declaration with all extensions laid over it, and its
standing. -/
structure TypeDefinition extends Declaration where
  extendedBy : List Value := []
  standing : Standing := .root
  deriving DecidableEq, Repr, Inhabited

namespace TypeDefinition

variable (d : TypeDefinition)

/-- Are all ancestors known? -/
def isResolved : Bool := d.standing.isResolved

/-- Is an ancestor missing, as far as is known? -/
def isDeferred : Bool := d.standing == .deferred

/-- The ancestors, the nearest first, if they are known. -/
def ancestors : List TypeId :=
  match d.standing with
  | .resolved h => h.ancestors
  | _ => []

/-- The rules and attributes that the type has from its ancestors. -/
def inherited : Rules :=
  match d.standing with
  | .resolved h => h.toRules
  | _ => {}

/-- **The type itself and its ancestors**, the nearest first. -/
def lineage : List TypeId := d.id :: d.ancestors

/-- **All rules and attributes of the type**, its own before the inherited ones. -/
def effective : Rules := d.toRules.nearest d.inherited

/-- Is the type the other one, or one of its descendants? -/
def isA (other : TypeId) : Bool := d.lineage.contains other

/-- The schema of an attribute, the type's own or an inherited one. -/
def attribute? (name : String) : Option AttributeSpec :=
  Taxonomy.attribute? d.effective.attributes name

/-- The schema of an attribute that is asked for by any value; what can be no key is refused. -/
def attributeOf (name : Value) : Result (Option AttributeSpec) := do
  return match ← name.asKey with
    | .str s => d.attribute? s
    | _ => none

/-- The definition in one line. -/
def text : String :=
  let parent := match d.parent with
    | some p => s!" extends {p}"
    | none => ""
  s!"TypeDefinition[{d.id}{parent}, children={d.effective.children.length}]"

/-- Equality up to the modules that extended a type. -/
def sameContent (e : TypeDefinition) : Bool :=
  decide ({ d with extendedBy := [] } = { e with extendedBy := [] })

/-- Lays an extension over the definition, and notes the scope that it belongs to. -/
def extend (e : Extension) : TypeDefinition :=
  { d with
    toRules := d.toRules.overlay e.toRules
    extendedBy := match e.scope with
      | some s =>
        if !s.isTruthy || d.extendedBy.contains s then d.extendedBy else d.extendedBy ++ [s]
      | none => d.extendedBy }

/-- Lays extensions over the definition, one after the other. -/
def extendAll (es : List Extension) : TypeDefinition := es.foldl extend d

@[simp] theorem extend_id (e : Extension) : (d.extend e).id = d.id := rfl

@[simp] theorem extendAll_id (es : List Extension) : (d.extendAll es).id = d.id := by
  induction es generalizing d with
  | nil => rfl
  | cons e es ih => exact ih (d.extend e)

end TypeDefinition

/-- The definition that a declaration amounts to before its ancestors are looked at. -/
def Declaration.define (d : Declaration) (standing : Standing := .root) : TypeDefinition :=
  { d with standing }

end Taxonomy
