import Taxonomy.Constraint.Basic
import Taxonomy.Inheritance

/-!
# Contents of a registry

What a registry holds: the declarations with their extensions, the definitions that result from
them, and the constraints. Every change is a function from contents to a result and new contents.

* `Contents.register`: a new type; it may close a cycle of parents.
* `Contents.commit`: an extension of a type; the types below it are looked up anew.
* `Contents.resolveDeferred`: settles the deferred types.
* `Contents.addConstraint`: a new constraint.
* `Contents.release`: takes out all that belongs to a scope, and settles the rest.
-/

namespace Taxonomy

/-- **A declared type** with the extensions that were committed to it, in order. -/
structure Registration where
  declaration : Declaration
  extensions : List Extension := []
  deriving DecidableEq, Repr, Inhabited

namespace Registration

/-- The id of the declared type. -/
def id (r : Registration) : TypeId := r.declaration.id

/-- The definition that declaration and extensions amount to, before its ancestors are looked
at. -/
def define (r : Registration) (standing : Standing) : TypeDefinition :=
  { r.declaration.define.extendAll r.extensions with standing }

@[simp] theorem define_id (r : Registration) (standing : Standing) :
    (r.define standing).id = r.id :=
  TypeDefinition.extendAll_id _ _

end Registration

/-- **What a registry holds.** The scope of each constraint is kept under its id. -/
structure Contents where
  registrations : Catalog Registration.id := .empty
  types : TypeCatalog := .empty
  placement : List PlacementConstraint := []
  validation : List ValidationConstraint := []
  constraintScopes : List (String × Option Value) := []
  deriving Inhabited

/-- **The outcome of a change**: its result, and the new contents with the ids whose definitions
were written. There are no new contents when there was nothing to do. -/
structure Change (α : Type) where
  result : α
  update : Option (Contents × List TypeId) := none

namespace Contents

variable (c : Contents)

/-- The stored definition of a type. -/
def type? (t : TypeId) : Option TypeDefinition := c.types.find? t

/-- The constraint of an id. -/
def constraint? (id : String) : Option Constraint :=
  match c.placement.find? (·.id == id) with
  | some k => some (.placement k)
  | none => (c.validation.find? (·.id == id)).map .validation

/-- The members of the cycle that a declaration closes. -/
def closedCycle (d : Declaration) : List TypeId :=
  match (walk d c.types.entries).ending with
  | .cycle members => members
  | _ => []

/-- The definitions with some of them marked as members of a cycle. -/
def markCyclic (types : TypeCatalog) (members : List TypeId) : TypeCatalog :=
  types.map (fun d => if members.contains d.id then { d with standing := .cyclic } else d)
    fun d => by split <;> rfl

/-- **Registers a type**, unless its id is taken. -/
def register (d : Declaration) : Result (Change TypeDefinition) :=
  if c.registrations.contains d.id then throw (.typeTaken d.id)
  else
    let stored := resolve d.define c.types
    let members := c.closedCycle d
    let types := markCyclic (c.types.insert stored) members
    pure ⟨stored, some ({ c with types, registrations := c.registrations.insert ⟨d, []⟩ },
      d.id :: members)⟩

/-- Looks up definitions anew, one after the other. -/
def refresh (types : TypeCatalog) (below : List TypeId) : TypeCatalog :=
  below.foldl (fun types b => match types.find? b with
    | some d => types.insert (resolve d types)
    | none => types) types

/-- The ids of the types that have a type among their ancestors. -/
def below (t : TypeId) : List TypeId :=
  (c.types.entries.filter fun d => d.ancestors.contains t).map (·.id)

/-- **Commits an extension to a type.** An empty one changes nothing. -/
def commit (t : TypeId) (e : Extension) : Result (Change TypeDefinition) :=
  match c.types.find? t with
  | none => throw (.typeNotFound t [])
  | some current =>
    if e.isEmpty then pure ⟨current, none⟩
    else
      let merged := current.extend e
      let stored := if current.isResolved then resolve merged c.types else merged
      let below := c.below t
      let types := refresh (c.types.insert stored) below
      let registrations := c.registrations.modify t
        (fun r => { r with extensions := r.extensions ++ [e] }) fun _ => rfl
      pure ⟨(types.find? t).getD stored, some ({ c with types, registrations }, t :: below)⟩

/-- **Resolves the deferred types** whose chains of parents are complete; the result is their
number. -/
def resolveDeferred : Change Nat :=
  let pending := (c.types.entries.filter (·.isDeferred)).map (·.id)
  let s := settle c.types pending
  if s.resolved.isEmpty && s.cyclic.isEmpty then ⟨0, none⟩
  else ⟨s.resolved.length, some ({ c with types := s.types }, pending)⟩

/-- **Adds a constraint**, unless its id is taken by one of either kind. -/
def addConstraint (k : Constraint) (scope : Option Value) : Result (Change Unit) :=
  if c.constraintScopes.any (·.1 == k.id) then throw (.constraintTaken k.id)
  else
    let c := { c with constraintScopes := c.constraintScopes ++ [(k.id, scope)] }
    pure ⟨(), some (match k with
      | .placement k => { c with placement := c.placement ++ [k] }
      | .validation k => { c with validation := c.validation ++ [k] }, [])⟩

/-- The number of types, extensions and constraints that belong to a scope. -/
def tagged (scope : Value) : Nat :=
  c.registrations.entries.countP (·.declaration.scope == some scope) +
    (c.registrations.entries.flatMap (·.extensions)).countP (·.scope == some scope) +
    c.constraintScopes.countP (·.2 == some scope)

/-- The registrations without those of a scope, and without its extensions of others. -/
def registrationsWithout (scope : Value) : Catalog Registration.id :=
  (c.registrations.filter (·.declaration.scope != some scope)).map
    (fun r => { r with extensions := r.extensions.filter (·.scope != some scope) }) fun _ => rfl

/-- Looks a type up anew that has to wait: it is cyclic or deferred, whatever its chain. -/
def holdBack (types : TypeCatalog) (t : TypeId) : TypeCatalog :=
  match types.find? t with
  | none => types
  | some d =>
    let standing := match standing d.toDeclaration types.entries with
      | .cyclic => .cyclic
      | _ => .deferred
    types.insert { d with standing }

/-- **Releases a scope**: takes out the types, extensions and constraints that belong to it and
settles the types that remain; those that were not resolved before keep waiting. The result is the
number of what was taken out. -/
def release (scope : Value) : Change Nat :=
  let purged := c.tagged scope
  if purged == 0 then ⟨0, none⟩
  else
    let registrations := c.registrationsWithout scope
    let types : TypeCatalog := registrations.map (·.define .deferred) fun r => r.define_id _
    let isHeld (t : TypeId) := (c.types.find? t).any fun d => !d.isResolved
    let held := types.keys.filter isHeld
    let settled := (settle types (types.keys.filter (!isHeld ·))).types
    let dropped := (c.constraintScopes.filter (·.2 == some scope)).map (·.1)
    ⟨purged, some (
      { registrations
        types := held.foldl holdBack settled
        placement := c.placement.filter (!dropped.contains ·.id)
        validation := c.validation.filter (!dropped.contains ·.id)
        constraintScopes := c.constraintScopes.filter (!dropped.contains ·.1) },
      types.keys)⟩

end Contents

end Taxonomy
