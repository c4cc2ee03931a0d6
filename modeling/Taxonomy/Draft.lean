import Taxonomy.Definition
import Taxonomy.Rule.Reading

/-!
# Drafts

A type is declared by clauses, one after the other; a clause that repeats a key replaces the
earlier rule. The same clauses, as far as they concern rules, make up an extension.

* `Clause`: one statement of a declaration.
* `TypeDraft`: a declaration in the making; `ofDeclaration` takes it up again.
* `ExtensionDraft`: an extension in the making, which can be committed once.
-/

namespace Taxonomy

/-- **One statement of a declaration.** -/
inductive Clause where
  | describe (description : Value)
  /-- Names the parent as a whole. -/
  | inherit (parent : TypeRef)
  /-- Names the parent by its two parts. -/
  | inheritParts (family subtype : Value)
  | acceptChildren (family : Value := wildcard) (subtype : Value := wildcard)
    (name : Value := wildcard) (required : Bool := false)
  | acceptParents (family : Value := wildcard) (subtype : Value := wildcard)
    (name : Value := wildcard)
  | attribute (name : Value) (valueType : Value := "string") (required : Bool := false)
    (allowed : Value := .null) (arrayAllowed : Bool := false)
  /-- A statement that was not understood; it fails when its turn comes. -/
  | refused (fault : Fault)
  deriving Inhabited

/-- Runs steps one after the other until one fails; what the steps before it did is kept. -/
def applyUntilFault {σ ι : Type _} (step : σ → ι → Result σ) : σ → List ι → σ × Option Fault
  | s, [] => (s, none)
  | s, i :: is => match step s i with
    | .ok t => applyUntilFault step t is
    | .error f => (s, some f)

/-- What a clause about rules adds to rules; the other clauses add nothing. -/
def Rules.apply (r : Rules) : Clause → Result Rules
  | .acceptChildren family subtype name required =>
    return r.addChild (← ChildRule.make family subtype name required)
  | .acceptParents family subtype name => return r.addParent (← ParentRule.make family subtype name)
  | .attribute name valueType required allowed arrayAllowed =>
    return r.addAttribute (← AttributeSpec.declare name valueType required allowed arrayAllowed)
  | .refused f => throw f
  | .describe _ | .inherit _ | .inheritParts .. => return r

/-- **A declaration in the making.** -/
structure TypeDraft where
  id : TypeId
  description : Value := ""
  parent : Option TypeId := none
  rules : Rules := {}
  deriving DecidableEq, Repr, Inhabited

namespace TypeDraft

/-- Takes in one clause. -/
def apply (d : TypeDraft) : Clause → Result TypeDraft
  | .describe v => return { d with description := if v.isTruthy then v else "" }
  | .inherit parent => return { d with parent := some (← parent.resolve) }
  | .inheritParts family subtype =>
    return { d with parent := some (← TypeId.make family.text subtype) }
  | c => return { d with rules := ← d.rules.apply c }

/-- **Takes in clauses**, all or none. -/
def applyAll (d : TypeDraft) (cs : List Clause) : Result TypeDraft := cs.foldlM apply d

/-- **The declaration that the draft amounts to.** -/
def build (d : TypeDraft) (scope : Option Value := none) : Declaration :=
  { d.rules with id := d.id, parent := d.parent, description := d.description, scope }

/-- **Takes a declaration up again**: a draft that amounts to it. -/
def ofDeclaration (d : Declaration) : TypeDraft where
  id := d.id
  description := d.description
  parent := d.parent
  rules :=
    ⟨putAll ChildRule.key d.children [], putAll ParentRule.key d.parents [],
      putAll AttributeSpec.name d.attributes []⟩

/-- The draft in one line. -/
def text (d : TypeDraft) : String :=
  s!"TypeDefinitionBuilder[{d.id}, children={d.rules.children.length}, " ++
    s!"parents={d.rules.parents.length}, attributes={d.rules.attributes.length}]"

end TypeDraft

/-- **An extension in the making**, of a type as it was when the draft was opened. -/
structure ExtensionDraft where
  existing : TypeDefinition
  rules : Rules := {}
  committed : Bool := false
  deriving Inhabited

namespace ExtensionDraft

/-- Takes in one clause. An extension changes neither the description nor the parent. -/
def apply (d : ExtensionDraft) : Clause → Result ExtensionDraft
  | .describe _ => throw (.misfit d.existing.description .notCallable)
  | .inherit _ | .inheritParts .. =>
    throw (.unknownOperation "TypeExtensionBuilder" "inherits_from")
  | c => return { d with rules := ← d.rules.apply c }

/-- Takes in clauses until one fails; those before it stay. -/
def applyAll (d : ExtensionDraft) (cs : List Clause) : ExtensionDraft × Option Fault :=
  applyUntilFault apply d cs

/-- The extension that the draft amounts to. -/
def build (d : ExtensionDraft) (scope : Option Value) : Extension := { d.rules with scope }

end ExtensionDraft

end Taxonomy
