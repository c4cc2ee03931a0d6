import Taxonomy.Catalog
import Taxonomy.Definition

/-!
# Inheritance

How the chain of parents of a type is followed among the stored definitions, and what a type has
from a complete chain.

* `walk`: the chain ends at a type without a parent, comes back to a type of the chain, or meets an
  id that is not stored.
* `resolve`: the standing that the walk decides.
* `settle`: resolves candidates until nothing changes.
-/

namespace Taxonomy

/-- **How the chain of parents ends.** -/
inductive ChainEnd where
  | complete
  /-- The chain comes back; the members are in the order of the chain. -/
  | cycle (members : List TypeId)
  | missing (id : TypeId)
  deriving DecidableEq, Repr

/-- **The chain of parents**, the nearest first, and how it ends. -/
structure Walk where
  chain : List TypeDefinition
  ending : ChainEnd
  deriving DecidableEq, Repr

/-- Follows the parents from `parent`, where `seen` are the ids of the chain so far and `rest` the
definitions that are not on it. -/
def walkFrom (seen : List TypeId) (rest : List TypeDefinition) : Option TypeId → Walk
  | none => ⟨[], .complete⟩
  | some p =>
    if p ∈ seen then ⟨[], .cycle (seen.dropWhile (· != p))⟩
    else match _h : rest.find? (·.id == p) with
      | none => ⟨[], .missing p⟩
      | some d =>
        let w := walkFrom (seen ++ [p]) (rest.eraseP (·.id == p)) d.parent
        ⟨d :: w.chain, w.ending⟩
termination_by rest.length
decreasing_by
  have hm := List.mem_of_find?_eq_some _h
  have hp := List.find?_some _h
  have := List.length_pos_of_mem hm
  rw [List.length_eraseP_of_mem hm hp]
  omega

/-- **Follows the parents of a type** among the stored definitions. -/
def walk (d : Declaration) (types : List TypeDefinition) : Walk := walkFrom [d.id] types d.parent

/-- What a type has from a complete chain of ancestors. -/
def heritage (chain : List TypeDefinition) : Heritage :=
  { ({} : Rules).nearest (Rules.concat (chain.map (·.toRules))) with
    ancestors := chain.map (·.id) }

/-- **The standing of a type** among the stored definitions. A type whose chain is complete is
resolved only when all of its ancestors are. -/
def standing (d : Declaration) (types : List TypeDefinition) : Standing :=
  let w := walk d types
  match w.ending with
  | .cycle _ => .cyclic
  | .missing _ => .deferred
  | .complete =>
    if w.chain.isEmpty then .root
    else if w.chain.all (·.isResolved) then .resolved (heritage w.chain)
    else .deferred

/-- The stored definitions, under their ids. -/
abbrev TypeCatalog := Catalog fun d : TypeDefinition => d.id

/-- The definition with its standing looked up anew. -/
def resolve (d : TypeDefinition) (types : TypeCatalog) : TypeDefinition :=
  { d with standing := standing d.toDeclaration types.entries }

/-- What passes over candidates lead to: the definitions, the candidates that were resolved, and
those that remain. -/
structure Passed where
  types : TypeCatalog
  resolved : List TypeId
  remaining : List TypeId

/-- One pass over candidates: those that can be resolved are, and the others remain. -/
def settlePass (types : TypeCatalog) : List TypeId → Passed
  | [] => ⟨types, [], []⟩
  | t :: ts =>
    match (types.find? t).map (resolve · types) with
    | none => settlePass types ts
    | some d =>
      if d.isResolved then
        let p := settlePass (types.insert d) ts
        { p with resolved := t :: p.resolved }
      else
        let p := settlePass types ts
        { p with remaining := t :: p.remaining }

theorem length_settlePass_le (types : TypeCatalog) (ts : List TypeId) :
    (settlePass types ts).resolved.length + (settlePass types ts).remaining.length ≤ ts.length := by
  induction ts generalizing types with
  | nil => simp [settlePass]
  | cons t ts ih =>
    unfold settlePass
    split
    · exact Nat.le_trans (ih types) (by simp)
    · next d _ =>
      split
      · have := ih (types.insert d); simp only [List.length_cons]; omega
      · have := ih types; simp only [List.length_cons]; omega

/-- Passes over the candidates until a pass resolves none of them. -/
def settlePasses (types : TypeCatalog) (ts : List TypeId) : Passed :=
  if _h : (settlePass types ts).resolved = [] then settlePass types ts
  else
    let p := settlePass types ts
    let q := settlePasses p.types p.remaining
    { q with resolved := p.resolved ++ q.resolved }
termination_by ts.length
decreasing_by
  have := length_settlePass_le types ts
  have := List.length_pos_iff.2 _h
  omega

/-- Notes how far candidates are from being resolved: deferred or cyclic. -/
def markRemaining (types : TypeCatalog) (ts : List TypeId) : TypeCatalog :=
  ts.foldl (fun types t => match types.find? t with
    | some d => types.insert (resolve d types)
    | none => types) types

/-- **What settling leads to**: the definitions, the candidates that it resolved, and those that
are on a chain that comes back. -/
structure Settled where
  types : TypeCatalog
  resolved : List TypeId
  cyclic : List TypeId

/-- **Resolves candidates until nothing changes.** Candidates that stay unresolved are marked as
deferred or as cyclic. -/
def settle (types : TypeCatalog) (candidates : List TypeId) : Settled :=
  let p := settlePasses types (candidates.filter types.contains)
  let types := markRemaining p.types p.remaining
  { types
    resolved := p.resolved
    cyclic := p.remaining.filter fun t => (types.find? t).any (·.standing == .cyclic) }

end Taxonomy
