import Taxonomy.Registry.Snapshot

/-!
# Placements

May a child stand under a parent? Answers come from a table that is built once for a snapshot: for
every type its child rules under their keys, and the constraints that may concern it as a parent.

* `PlacementTable.build`: the table of a snapshot.
* `PlacementTable.evaluate`: the decision on one placement.
* `PlacementTable.validChildren`, `.validParents`: what may stand where, under some name.
-/

namespace Taxonomy

/-- **The decision on a placement**: the rule that governs it, and what stands in its way. -/
structure Decision where
  allowed : Bool
  rule : Option ChildRule := none
  constraint : Option String := none
  reason : Value := ""
  deriving DecidableEq, Repr, Inhabited

/-- A type as a parent. -/
structure ParentEntry where
  definition : TypeDefinition
  rules : List ChildRule
  constraints : List PlacementConstraint

/-- The id of the type. -/
def ParentEntry.id (e : ParentEntry) : TypeId := e.definition.id

/-- The rule under a key. -/
def ParentEntry.rule? (e : ParentEntry) (k : RuleKey) : Option ChildRule :=
  e.rules.find? (·.key == k)

/-- **All that decides on placements** at one generation. -/
structure PlacementTable where
  generation : Nat
  entries : Catalog ParentEntry.id
  constraints : List PlacementConstraint

/-- **The keys of the rules that may govern a child**, the most specific first. A name that is no
text belongs to no key. -/
def probeKeys (child : TypeId) (name : Value) : List RuleKey :=
  let names := match name with
    | .str n => if n == wildcard then [wildcard] else [n, wildcard]
    | _ => [wildcard]
  names.flatMap fun n => [child.subtype, wildcard].flatMap fun s =>
    [child.family, wildcard].map fun f => (f, s, n)

/-- May the constraint concern the type as a parent? -/
def PlacementConstraint.coversParent (k : PlacementConstraint) (d : TypeDefinition) : Bool :=
  if k.descendants then d.lineage.any k.parent.matches else k.parent.matches d.id

/-- The id of the first constraint that denies a placement, with its description. -/
def firstDenial (c : PlacementContext) :
    List PlacementConstraint → Result (Option PlacementConstraint)
  | [] => pure none
  | k :: ks => do if ← k.denies c then return some k else firstDenial c ks

/-- Some name that both a child rule and a parent rule allow. -/
def namesMeet (a b : String) : Bool := a == wildcard || b == wildcard || a == b

namespace PlacementTable

/-- **The table of a snapshot.** -/
def build (s : Snapshot) : PlacementTable where
  generation := s.generation
  entries := s.contents.types.map
    (fun d => ⟨d, d.effective.children, s.contents.placement.filter (·.coversParent d)⟩)
    fun _ => rfl
  constraints := s.contents.placement

variable (table : PlacementTable)

/-- The number of rules in the table. -/
def ruleCount : Nat := table.entries.entries.foldl (fun n e => n + e.rules.length) 0

/-- **Decides on a placement**: first the parent's rules, then the child's, then the
constraints. -/
def evaluate (parent child : TypeId) (name : Value) : Result Decision :=
  match table.entries.find? parent with
  | none => pure { allowed := false, reason := s!"parent type {parent} is not registered" }
  | some entry => do
    match (probeKeys child (← name.asKey)).findSome? entry.rule? with
    | none =>
      return { allowed := false, reason := s!"no accepts-children rule of {parent} matches" }
    | some rule =>
      let known := (table.entries.find? child).map (·.definition)
      let parentRules := match known with
        | some d => d.effective.parents
        | none => []
      if !parentRules.isEmpty && !parentRules.any (·.admits parent name) then
        let reason := s!"{child} does not accept {parent} as a parent"
        return { allowed := false, rule, reason }
      else
        let c : PlacementContext :=
          { parent, child, childName := name
            parentLineage := entry.definition.lineage
            childLineage := match known with
              | some d => d.lineage
              | none => [child] }
        match ← firstDenial c entry.constraints with
        | some k =>
          return { allowed := false, rule, constraint := k.id, reason := k.description }
        | none => return { allowed := true, rule }

/-- The entries in the order of their ids. -/
def sorted : List ParentEntry := table.entries.entries.mergeSort fun a b => a.id.le b.id

/-- May a type stand under the entry's type, as far as rules say, under some name? -/
def admitsSomeName (entry : ParentEntry) (d : TypeDefinition) : Bool :=
  let names := (entry.rules.filter fun r =>
    covers r.family d.id.family && covers r.subtype d.id.subtype).map (·.name)
  let rules := d.effective.parents
  !names.isEmpty && (rules.isEmpty ||
    (rules.filter (·.admitsParent entry.id)).any fun r => names.any (namesMeet r.name ·))

/-- **The types that may stand under a parent** under some name, in order. -/
def validChildren (parent : TypeId) : List TypeId :=
  match table.entries.find? parent with
  | none => []
  | some entry => (table.sorted.filter (admitsSomeName entry ·.definition)).map (·.id)

/-- **The types under which a child may stand** under some name, in order. -/
def validParents (child : TypeId) : List TypeId :=
  (table.sorted.map (·.id)).filter fun p => (table.validChildren p).contains child

end PlacementTable

end Taxonomy
