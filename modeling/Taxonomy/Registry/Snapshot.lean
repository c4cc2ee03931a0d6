import Taxonomy.Registry.Contents

/-!
# Snapshots

Contents at one moment, with the number of changes that led to them. Questions about types are put
to a snapshot.
-/

namespace Taxonomy

/-- **Contents at one moment.** -/
structure Snapshot where
  generation : Nat := 0
  contents : Contents := {}
  deriving Inhabited

namespace Snapshot

variable (s : Snapshot)

/-- The stored definitions in the order of registration. -/
def types : List TypeDefinition := s.contents.types.entries

/-- The stored definitions in the order of their ids. -/
def sortedTypes : List TypeDefinition := s.types.mergeSort fun a b => a.id.le b.id

/-- The stored definition of an id. -/
def type? (t : TypeId) : Option TypeDefinition := s.contents.types.find? t

/-- The names of the stored types in order; two ids may share one. -/
def names : List String := textSet (s.types.map fun d => d.id.name)

/-- The stored definition of an id, which has to be there. -/
def requireType (t : TypeId) : Result TypeDefinition :=
  match s.type? t with
  | some d => pure d
  | none => throw (.typeNotFound t s.names)

/-- The families of the stored types, in order. -/
def families : List String := textSet (s.types.map (·.id.family))

/-- The types of a family, in order. -/
def family (name : String) : List TypeDefinition :=
  s.sortedTypes.filter (·.id.family == name)

end Snapshot

/-- A child as it is placed: family, subtype and name, which is null where there is none. -/
structure ChildKind where
  family : Value
  subtype : Value
  name : Value
  deriving DecidableEq, Repr, Inhabited

/-- A child from a value of three parts. -/
def ChildKind.read (given : Value) : Result ChildKind := do
  let some parts := given.iterate? | throw (.misfit given .notUnpackable)
  match parts with
  | [family, subtype, name] => return ⟨family, subtype, name⟩
  | _ => throw (.partCount 3 (min parts.length 4))

namespace TypeDefinition

variable (d : TypeDefinition)

/-- **The rule that governs a child**: the most specific one that accepts it. -/
def childRule? (c : ChildKind) : Option ChildRule :=
  governing? d.effective.children c.family c.subtype c.name

/-- The children that the type supports, in words. -/
def supportedChildren : String :=
  let rules := d.effective.children
  if rules.isEmpty then s!"{d.id} accepts no children"
  else s!"Supported children of {d.id}: " ++ Fault.row (rules.map fun r => s!"{r} ({r.describe})")

/-- Does one of several values stand for a child that the rule accepts? The first such value
decides; those behind it are not read. -/
def satisfied (r : ChildRule) : List Value → Result Bool
  | [] => pure false
  | v :: vs => do
    let c ← ChildKind.read v
    if r.accepts c.family c.subtype c.name then return true else satisfied r vs

/-- **The required rules that none of the children satisfies.** -/
def missingChildren (present : List Value) : Result (List ChildRule) :=
  d.effective.children.filterM fun r => do
    if r.required then return !(← satisfied r present) else return false

/-- **The names of the required attributes that are not among the given ones.** -/
def missingAttributes (present : List Value) : List String :=
  (d.effective.attributes.filter fun a => a.required && !present.contains a.name).map (·.name)

end TypeDefinition

end Taxonomy
