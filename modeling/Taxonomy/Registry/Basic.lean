import Taxonomy.Draft
import Taxonomy.Placement
import Taxonomy.Registry.Health
import Taxonomy.Registry.Report

/-!
# The registry

A registry publishes snapshots; every change leads to a new one. Registrations belong to scopes,
and a scope can be released as a whole, at once or with the next change.

* `Registry.change`: scopes that are queued for release are released before every change.
* `Registry.register`, `.commit`, `.resolveDeferred`, `.addConstraint`, `.releaseScope`: the
  changes.
* `Registry.scheduleRelease`, `.releasePending`: the queue.
-/

namespace Taxonomy

/-- **A scope as callers name it.** -/
inductive ScopeRef where
  | none
  /-- A handle that a module holds. -/
  | handle (name : Value)
  | value (v : Value)
  deriving Inhabited

namespace ScopeRef

/-- A handle, whose name must not be blank. -/
def makeHandle (name : Value) : Result ScopeRef :=
  if name.isTruthy && !Text.isBlankText name.text then pure (.handle name)
  else throw .scopeNameMissing

/-- **The name of a scope**, if there is one; a blank text names none. -/
def name? : ScopeRef → Option Value
  | none | value .null => Option.none
  | handle n => some n
  | value v => let s := Text.trim v.text; if s == "" then Option.none else some (.str s)

end ScopeRef

/-- Which checks are made: none, or those on types of all families but some. -/
structure Switches where
  enabled : Bool := true
  disabledFamilies : List Value := []
  deriving DecidableEq, Repr, Inhabited

namespace Switches

/-- Turns all checks, or those on a family, on or off; null stands for all. -/
def set (s : Switches) (enabled : Bool) (family : Value) : Result Switches := do
  match family with
  | .null => return { s with enabled }
  | f =>
    let others := s.disabledFamilies.filter (!(← f.asKey).same ·)
    return { s with disabledFamilies := if enabled then others else f :: others }

/-- Are checks made on a family? -/
def areOn (s : Switches) (family : String) : Bool :=
  s.enabled && !s.disabledFamilies.any (·.same family)

/-- Are checks made at all or, unless null is given, on a family? -/
def ask (s : Switches) (family : Value) : Result Bool := do
  if !s.enabled then return false
  match family with
  | .null => return true
  | f => let f ← f.asKey; return !s.disabledFamilies.any f.same

end Switches

/-- **A registry**: its snapshot, the scopes queued for release, the scopes that are entered, the
innermost first, and what it keeps for later answers. -/
structure Registry where
  name : String := "default"
  snapshot : Snapshot := {}
  /-- The generation at which each stored definition was written. -/
  written : List (TypeId × Nat) := []
  released : List Value := []
  scopes : List (Option Value) := []
  report : Option BootstrapReport := none
  table : Option PlacementTable := none
  rebuilds : Nat := 0
  switches : Switches := {}
  deriving Inhabited

/-- **An operation on a registry**: it may fail, and what it did until then is kept. -/
abbrev Action := ExceptT Fault (StateM Registry)

/-- The outcome of an operation, as a value. -/
def attempt {α : Type} (a : Action α) : Action (Result α) :=
  ExceptT.mk do return .ok (← a.run)

namespace Registry

variable (r : Registry)

/-- The number of changes so far. -/
def generation : Nat := r.snapshot.generation

/-- **Publishes the outcome of a change**, if there is anything new. -/
def publish {α : Type} (c : Change α) : Registry :=
  match c.update with
  | none => r
  | some (contents, ids) =>
    let generation := r.generation + 1
    { r with
      snapshot := { generation, contents }
      written := ids.foldl (fun w t => put Prod.fst (t, generation) w) r.written }

/-- Releases a scope. -/
def releaseNow (scope : Value) : Nat × Registry :=
  let c := r.snapshot.contents.release scope
  (c.result, r.publish c)

/-- **Releases the queued scopes**, in order; the number of what was taken out. -/
def drain : Nat × Registry :=
  r.released.foldl (fun (n, r) scope => let (m, r) := r.releaseNow scope; (n + m, r))
    (0, { r with released := [] })

/-- **A change of the contents**, after the queued scopes were released. -/
def change {α : Type} (f : Contents → Result (Change α)) : Action α := do
  modify fun r => r.drain.2
  let c ← f (← get).snapshot.contents
  modify (·.publish c)
  return c.result

/-- The scope that registrations belong to unless they name one. -/
def currentScope : Option Value := r.scopes.head?.join

/-- The scope that a registration belongs to. -/
def effectiveScope (scope : ScopeRef) : Option Value := scope.name?.or r.currentScope

/-- **Registers a type** by clauses. -/
def register (id : TypeRef) (clauses : List Clause := []) (scope : ScopeRef := .none) :
    Action TypeDefinition := do
  let draft ← ({ id := ← id.resolve } : TypeDraft).applyAll clauses
  let d := draft.build ((← get).effectiveScope scope)
  change (·.register d)

/-- **Opens an extension** of a registered type. -/
def findType (id : TypeRef) : Action ExtensionDraft := do
  return { existing := ← (← get).snapshot.requireType (← id.resolve) }

/-- **Commits an extension**, once. -/
def commit (draft : ExtensionDraft) (scope : ScopeRef := .none) : Action TypeDefinition := do
  if draft.committed then throw (.alreadyCommitted draft.existing.id)
  let e := draft.build ((← get).effectiveScope scope)
  change (·.commit draft.existing.id e)

/-- **Resolves deferred inheritance**; the number of types that were resolved. -/
def resolveDeferred : Action Nat := change fun c => pure c.resolveDeferred

/-- **Adds a constraint.** -/
def addConstraint (k : ConstraintRef) (scope : ScopeRef := .none) : Action Unit := do
  let k ← k.resolve
  let scope := (← get).effectiveScope scope
  change (·.addConstraint k scope)

/-- **Adds constraints** until one is refused; those before it stay. The result is their number. -/
def addConstraints (ks : List ConstraintRef) (scope : ScopeRef := .none) : Action Nat := do
  for k in ks do addConstraint k scope
  return ks.length

/-- **Releases a scope**; the number of types, extensions and constraints taken out. -/
def releaseScope (scope : ScopeRef) : Action Nat := do
  let some name := scope.name? | throw .releaseWithoutScope
  change fun c => pure (c.release name)

/-- **Queues a scope for release** with the next change. -/
def scheduleRelease (scope : ScopeRef) : Registry :=
  match scope.name? with
  | some name => { r with released := r.released ++ [name] }
  | none => r

/-- Releases the queued scopes now; the number of what was taken out. -/
def releasePending : Action Nat := modifyGet (·.drain)

/-- Enters a scope. -/
def enterScope (scope : ScopeRef) : Registry := { r with scopes := scope.name? :: r.scopes }

/-- Leaves the innermost scope. -/
def leaveScope : Registry := { r with scopes := r.scopes.tail }

/-- **Forgets all registrations**, and the report on providers. -/
def clear : Registry :=
  { r with
    snapshot := { generation := r.generation + 1 }
    written := []
    released := []
    report := none }

/-- The registry in one line. -/
def text : String :=
  s!"MetaDataRegistry[{r.name}, types={r.snapshot.types.length}, generation={r.generation}]"

/-- The stored definition of a type. -/
def type? (id : TypeRef) : Result (Option TypeDefinition) :=
  return r.snapshot.type? (← id.resolve)

/-- The stored definition of a type, which has to be there. -/
def requireType (id : TypeRef) : Result TypeDefinition := do
  r.snapshot.requireType (← id.resolve)

/-- **Is a type registered?** What cannot be read as an id is not. -/
def contains (id : TypeRef) : Bool :=
  match id with
  | .id t => (r.snapshot.type? t).isSome
  | .value (.str s) => match TypeId.parse s with
    | .ok t => (r.snapshot.type? t).isSome
    | .error _ => false
  | _ => false

/-- The required child rules of a type that none of the present children satisfies. -/
def missingChildren (id : TypeRef) (present : Value) : Result (List ChildRule) := do
  let present ← elementsOf present
  (← r.requireType id).missingChildren present

/-- The names of the required attributes of a type that are not present. -/
def missingAttributes (id : TypeRef) (present : Value) : Result (List String) := do
  let present ← setOf present
  return (← r.requireType id).missingAttributes present

/-- The children that a type supports, in words. -/
def supportedChildren (id : TypeRef) : Result String := do
  match ← r.type? id with
  | some d => return d.supportedChildren
  | none => return s!"Type {id.text} is not registered"

/-- **The placement table** of the current snapshot, built if there is none yet. -/
def currentTable : Action PlacementTable := do
  let r ← get
  match r.table with
  | some table =>
    if table.generation == r.generation then return table
    rebuild r
  | none => rebuild r
where
  /-- Builds the table and keeps it. -/
  rebuild (r : Registry) : Action PlacementTable := do
    let table := PlacementTable.build r.snapshot
    set { r with table := some table, rebuilds := r.rebuilds + 1 }
    return table

/-- Forgets the placement table. -/
def invalidateTable : Registry := { r with table := none }

/-- **Decides on a placement.** -/
def evaluate (parent child : TypeId) (name : Value) : Action Decision := do
  (← currentTable).evaluate parent child name

/-- Decides on a placement of types that are yet to be read. -/
def acceptsChild (parent child : TypeRef) (name : Value) : Action Bool := do
  let parent ← parent.resolve
  let child ← child.resolve
  return (← evaluate parent child name).allowed

/-- Is a placement allowed that is given by the parts of both ids and a name? -/
def isPlacementAllowed (args : List Value) : Action Bool := do
  let s : Signature :=
    { operation := "ConstraintFlattener.is_placement_allowed", bound := ["self"]
      positional := ["parent_type", "parent_subtype", "child_type", "child_subtype",
        "child_name"].map (⟨·, none⟩) }
  let b ← s.apply args
  let parent ← TypeId.make (b.get "parent_type") (b.get "parent_subtype")
  let child ← TypeId.make (b.get "child_type") (b.get "child_subtype")
  return (← evaluate parent child (b.get "child_name")).allowed

/-- The types that may stand under a parent under some name. -/
def validChildren (parent : TypeRef) : Action (List TypeId) := do
  let table ← currentTable
  return table.validChildren (← parent.resolve)

/-- The types under which a child may stand under some name. -/
def validParents (child : TypeRef) : Action (List TypeId) := do
  let child ← child.resolve
  return (← currentTable).validParents child

end Registry

end Taxonomy
