import Taxonomy.Enforcement
import Taxonomy.Provider.Bootstrap

/-!
# Sessions

Work on one registry: extension drafts and definitions that are kept under names, owners whose end
releases a scope, the shelf of providers, and the registry that counts as the default one.
-/

namespace Taxonomy

/-- **A definition that is kept**, with the generation at which it was written. -/
structure Held where
  definition : TypeDefinition
  version : Option Nat
  deriving Inhabited

namespace Registry

/-- The generation at which a stored definition was written. -/
def version? (r : Registry) (t : TypeId) : Option Nat :=
  if (r.snapshot.type? t).isSome then r.written.lookup t else none

/-- The definition of a type, which has to be there, as it is now. -/
def hold (r : Registry) (id : TypeRef) : Result Held := do
  let d ← r.requireType id
  return ⟨d, r.version? d.id⟩

/-- Is the definition still the stored one? -/
def isCurrent (r : Registry) (h : Held) : Bool :=
  r.version? h.definition.id == h.version

/-- Is the definition equal to the stored one, whoever extended it? -/
def equalsCurrent (r : Registry) (h : Held) : Bool :=
  (r.snapshot.type? h.definition.id).any (·.sameContent h.definition)

end Registry

/-- The registry that counts as the default one. -/
inductive DefaultRegistry where
  /-- There is none yet. -/
  | unset
  /-- It is the registry of the session. -/
  | own
  | other (r : Registry)
  deriving Inhabited

/-- **A session.** -/
structure Session where
  registry : Registry := {}
  drafts : List (String × ExtensionDraft) := []
  held : List (String × Held) := []
  /-- The owners by their names, each with the scope that is bound to it. -/
  owners : List (String × Option ScopeRef) := []
  shelf : List Provider := []
  defaultRegistry : DefaultRegistry := .unset
  deriving Inhabited

/-- **An operation in a session.** -/
abbrev SessionAction := ExceptT Fault (StateM Session)

namespace Session

/-- An operation on the registry of the session. -/
def onRegistry {α : Type} (a : Action α) : SessionAction α :=
  ExceptT.mk fun s => let (x, r) := a.run.run s.registry; (x, { s with registry := r })

/-- A question to the registry of the session. -/
def ask {α : Type} (f : Registry → Result α) : SessionAction α := do f (← get).registry

/-- A change of the registry that cannot fail. -/
def update (f : Registry → Registry) : SessionAction Unit :=
  modify fun s => { s with registry := f s.registry }

/-- Where providers are found in the session. -/
def sources (s : Session) (entryPoints : List EntryPoint) : ProviderSources :=
  ⟨s.shelf, entryPoints⟩

/-- Keeps an extension draft under a name. -/
def keepDraft (name : String) (d : ExtensionDraft) : SessionAction Unit :=
  modify fun s => { s with drafts := put Prod.fst (name, d) s.drafts }

/-- The draft that is kept under a name. -/
def draft (name : String) : SessionAction ExtensionDraft := do
  match (← get).drafts.lookup name with
  | some d => return d
  | none => throw (.missingKey name)

/-- **Adds clauses to a kept draft** until one is refused; those before it stay. -/
def addToDraft (name : String) (clauses : List Clause) : SessionAction ExtensionDraft := do
  let (d, fault) := (← draft name).applyAll clauses
  keepDraft name d
  match fault with
  | some f => throw f
  | none => return d

/-- Opens an extension and keeps the draft under a name. -/
def findType (name : String) (id : TypeRef) (clauses : List Clause) :
    SessionAction ExtensionDraft := do
  keepDraft name (← onRegistry (Registry.findType id))
  addToDraft name clauses

/-- **Commits a kept draft**, which is then spent. -/
def commitDraft (name : String) (scope : ScopeRef) : SessionAction TypeDefinition := do
  let d ← draft name
  let stored ← onRegistry (Registry.commit d scope)
  keepDraft name { d with committed := true }
  return stored

/-- Opens an extension, adds clauses to it and commits it. -/
def extend (id : TypeRef) (clauses : List Clause) (scope : ScopeRef) :
    SessionAction TypeDefinition := do
  let d ← onRegistry (Registry.findType id)
  let (d, fault) := d.applyAll clauses
  if let some f := fault then throw f
  onRegistry (Registry.commit d scope)

/-- **Extends a type in a block**: the extension is committed at the end of the block, or within
it, and given up when the block fails before. -/
def extendWithin (id : TypeRef) (clauses : List Clause) (commitInside : Bool)
    (failure : Option Fault) : SessionAction (Option TypeDefinition) := do
  let d ← onRegistry (Registry.findType id)
  let (d, fault) := d.applyAll clauses
  if let some f := fault then throw f
  if commitInside then discard (onRegistry (Registry.commit d))
  if let some f := failure then throw f
  if !commitInside then discard (onRegistry (Registry.commit d))
  ask (·.type? id)

/-- A session in which the owner of a name has ended: its scope is queued for release. -/
def withoutOwner (s : Session) (name : String) : Session :=
  { s with
    registry := match (s.owners.lookup name).join with
      | some scope => s.registry.scheduleRelease scope
      | none => s.registry
    owners := s.owners.filter (·.1 != name) }

/-- The end of an owner, of which there has to be one. -/
def dropOwner (name : String) : SessionAction Unit := do
  if ((← get).owners.lookup name).isNone then throw (.missingKey name)
  modify (·.withoutOwner name)

/-- **Binds a scope to a new owner** of a name; an earlier owner of that name ends. The owner is
there also when the scope turns out to have no name. -/
def bindOwner (name : String) (scope : Value) : SessionAction Unit := do
  let own (scope : Option ScopeRef) : SessionAction Unit :=
    modify fun s => { s.withoutOwner name with owners := (name, scope) :: s.owners }
  own none
  own (← ScopeRef.makeHandle scope)

/-- Keeps the definition of a type under a name. -/
def hold (name : String) (id : TypeRef) : SessionAction Unit := do
  let h ← ask (·.hold id)
  modify fun s => { s with held := put Prod.fst (name, h) s.held }

/-- The definition that is kept under a name. -/
def held? (name : String) : SessionAction Held := do
  match (← get).held.lookup name with
  | some h => return h
  | none => throw (.missingKey name)

/-- Puts a provider on the shelf, in the place of the one with its id. -/
def shelve (p : Provider) : SessionAction Unit :=
  modify fun s => { s with shelf := put (·.id) p s.shelf }

/-- The default registry of a session in which providers are loaded; is it the session's own? -/
def useDefault (entryPoints : List EntryPoint) : SessionAction (Bool × Registry) := do
  let s ← get
  match s.defaultRegistry with
  | .own =>
    discard (onRegistry (Registry.ensureBootstrapped (s.sources entryPoints)))
    return (true, (← get).registry)
  | d =>
    let r := match d with
      | .other r => r
      | _ => {}
    let (outcome, r) := (Registry.ensureBootstrapped (s.sources entryPoints)).run.run r
    modify fun s => { s with defaultRegistry := .other r }
    match outcome with
    | .ok _ => return (false, r)
    | .error f => throw f

end Session

end Taxonomy
