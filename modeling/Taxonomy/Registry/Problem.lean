import Taxonomy.Registry.Snapshot

/-!
# Problems of inheritance

Why types are not resolved, one problem per type, in the order of their ids.
-/

namespace Taxonomy

/-- **Why a type is not resolved.** -/
inductive Problem where
  /-- Its chain of parents comes back to a type of the chain. -/
  | cyclic (type : TypeId) (members : List TypeId)
  /-- Its chain of parents meets an id that is not registered. -/
  | missing (type id : TypeId)
  /-- An ancestor is registered but has not been resolved yet. -/
  | pending (type id : TypeId)
  deriving DecidableEq, Repr, Inhabited

namespace Problem

/-- The type that is not resolved. -/
def type : Problem → TypeId
  | cyclic t _ | missing t _ | pending t _ => t

/-- **The wording of a problem.** -/
def message : Problem → String
  | cyclic t members =>
    let path := match members with
      | [] => t.name
      | m :: _ => " -> ".intercalate ((members ++ [m]).map TypeId.name)
    s!"Cyclic inheritance for {t}: {path}"
  | missing t id => s!"Type {t} cannot resolve parent chain: {id} is not registered"
  | pending t id =>
    s!"Type {t} cannot resolve parent chain: {id} is registered but inheritance has not been " ++
      "resolved yet"

end Problem

/-- **The problem of a type** that is not resolved. -/
def problemOf (d : TypeDefinition) (types : List TypeDefinition) : Problem :=
  let w := walk d.toDeclaration types
  match w.ending with
  | .cycle members => .cyclic d.id members
  | .missing id => .missing d.id id
  | .complete =>
    let blocked := (w.chain.find? (!·.isResolved)).map (·.id)
    .pending d.id ((blocked.or d.parent).getD d.id)

/-- **The problems of all types** that are not resolved. -/
def Snapshot.problems (s : Snapshot) : List Problem :=
  (s.sortedTypes.filter (!·.isResolved)).map (problemOf · s.types)

end Taxonomy
