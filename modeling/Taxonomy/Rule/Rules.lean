import Taxonomy.Keyed
import Taxonomy.Rule.Basic

/-!
# Rules together

The rules and attributes that belong together: what a module declares about a type, what an
extension adds to it, what a type inherits.

* `Rules.addAttribute`: an attribute brings the child rule that it stands for.
* `Rules.overlay`: later rules replace earlier ones of the same key, at their place.
* `Rules.nearest`: the first rule of each key counts.
-/

namespace Taxonomy

/-- **Rules and attributes that belong together.** -/
structure Rules where
  children : List ChildRule := []
  parents : List ParentRule := []
  attributes : List AttributeSpec := []
  deriving DecidableEq, Repr, Inhabited

namespace Rules

/-- Are there neither rules nor attributes? -/
def isEmpty (r : Rules) : Bool := r.children.isEmpty && r.parents.isEmpty && r.attributes.isEmpty

/-- Adds a child rule, in the place of the one with its key. -/
def addChild (r : Rules) (rule : ChildRule) : Rules :=
  { r with children := put ChildRule.key rule r.children }

/-- Adds a parent rule, in the place of the one with its key. -/
def addParent (r : Rules) (rule : ParentRule) : Rules :=
  { r with parents := put ParentRule.key rule r.parents }

/-- **Adds an attribute and the child rule that it stands for.** -/
def addAttribute (r : Rules) (a : AttributeSpec) : Rules :=
  { r with attributes := put AttributeSpec.name a r.attributes }.addChild a.childRule

/-- All rules of several sets, one after the other. -/
def concat (rs : List Rules) : Rules :=
  ⟨rs.flatMap children, rs.flatMap parents, rs.flatMap attributes⟩

/-- **Lays a set over another**: one rule per key, the later one, at the place of the first. -/
def overlay (base additions : Rules) : Rules :=
  ⟨Taxonomy.overlay ChildRule.key base.children additions.children,
    Taxonomy.overlay ParentRule.key base.parents additions.parents,
    Taxonomy.overlay AttributeSpec.name base.attributes additions.attributes⟩

/-- **The rules that count where the nearest one does**: one rule per key, the first. -/
def nearest (direct inherited : Rules) : Rules :=
  ⟨distinctBy ChildRule.key (direct.children ++ inherited.children),
    distinctBy ParentRule.key (direct.parents ++ inherited.parents),
    distinctBy AttributeSpec.name (direct.attributes ++ inherited.attributes)⟩

end Rules

/-- **The most specific one of the rules that accept a child**, the first of several. -/
def governing? (rules : List ChildRule) (family subtype name : Value) : Option ChildRule :=
  (rules.filter (·.accepts family subtype name)).foldl
    (fun best r => match best with
      | none => some r
      | some b => if b.specificity < r.specificity then some r else some b) none

/-- The attribute of a name. -/
def attribute? (specs : List AttributeSpec) (name : String) : Option AttributeSpec :=
  specs.find? (·.name == name)

end Taxonomy
