import Taxonomy.Proofs.Registry.Extensions

/-!
# Drafts that are taken up again

A declaration is taken up again by putting its rules, parent rules and attributes into a new draft,
one after the other. No rule is added for an attribute that way: the one that its clause brought is
among the rules, at its own place or replaced by a later one. The new draft is the old one as long
as no two entries have the same key, which clauses and extensions see to.

* `TypeDraft.callAll`: calls on a draft, refused ones among them.
* `TypeDraft.Made`, `TypeDraft.Made.distinct`: the drafts that callers can make.
* `TypeDraft.ofDeclaration_build`, `TypeDraft.build_ofDeclaration`: drafts and declarations with
  distinct keys are two forms of the same.
* `distinct_stored`: stored types have distinct keys in every reachable state.
* `copies_are_faithful`: copies of drafts and of stored types.
-/

namespace Taxonomy

open Registry

namespace TypeDraft

/-! ## Drafts as callers make them -/

/-- **Calls on a draft**, each of them the clauses that it amounts to. A call is refused at the
first clause that is not understood; what the clauses before it did is kept, and the next call goes
on from there. -/
def callAll (d : TypeDraft) : List (List Clause) → TypeDraft × List (Option Fault)
  | [] => (d, [])
  | call :: calls =>
    let after := applyUntilFault apply d call
    let rest := after.1.callAll calls
    (rest.1, after.2 :: rest.2)

/-- **A draft as callers make it**: opened for an id, perhaps with a description and a parent, or
taken up from a declaration, and changed by calls. -/
inductive Made : TypeDraft → Prop where
  | opened (id : TypeId) (description : Value) (parent : Option TypeId) :
    Made { id, description, parent }
  | takenUp (d : Declaration) : Made (ofDeclaration d)
  | called {draft : TypeDraft} (h : Made draft) (calls : List (List Clause)) :
    Made (draft.callAll calls).1

/-- Calls keep keys distinct, refused ones too. -/
theorem distinct_callAll {d : TypeDraft} (h : d.rules.Distinct) (calls : List (List Clause)) :
    (d.callAll calls).1.rules.Distinct := by
  induction calls generalizing d with
  | nil => exact h
  | cons call calls ih =>
    have hcall : (applyUntilFault apply d call).1.rules.Distinct :=
      applyUntilFault_keeps (fun h hok => Rules.stable_distinct.type_apply h hok) h call
    exact ih hcall

/-- **The drafts that callers can make have distinct keys.** -/
theorem Made.distinct {d : TypeDraft} (h : d.Made) : d.rules.Distinct := by
  induction h with
  | opened id description parent => exact Rules.distinct_empty
  | takenUp d =>
    exact ⟨nodup_putAll _ List.nodup_nil, nodup_putAll _ List.nodup_nil,
      nodup_putAll _ List.nodup_nil⟩
  | called _ calls ih => exact distinct_callAll ih calls

/-! ## Two forms of the same -/

/-- Entries under distinct keys, put into an empty list one after the other, are there again. -/
theorem rules_ofDeclaration {d : Declaration} (h : d.toRules.Distinct) :
    (ofDeclaration d).rules = d.toRules := by
  have hc : putAll ChildRule.key d.children [] = d.children := putAll_of_nodup h.children
  have hp : putAll ParentRule.key d.parents [] = d.parents := putAll_of_nodup h.parents
  have ha : putAll AttributeSpec.name d.attributes [] = d.attributes :=
    putAll_of_nodup h.attributes
  simp only [ofDeclaration, hc, hp, ha]

/-- **A draft is taken up again from what it amounts to.** -/
theorem ofDeclaration_build {d : TypeDraft} (h : d.rules.Distinct) (scope : Option Value) :
    ofDeclaration (d.build scope) = d := by
  have hrules : (ofDeclaration (d.build scope)).rules = d.rules := rules_ofDeclaration h
  cases d
  simpa [ofDeclaration, build] using hrules

/-- **A declaration is what it amounts to once it is taken up again.** -/
theorem build_ofDeclaration {d : Declaration} (h : d.toRules.Distinct) :
    (ofDeclaration d).build d.scope = d := by
  rw [build, rules_ofDeclaration h]
  rfl

end TypeDraft

/-! ## Stored types -/

/-- Extensions that are laid over a type leave its keys distinct. -/
theorem distinct_extendAll {d : TypeDefinition} (h : d.toRules.Distinct) (es : List Extension) :
    (d.extendAll es).toRules.Distinct := by
  cases es with
  | nil => exact h
  | cons e es =>
    rw [extendAll_cons]
    exact Rules.distinct_overlay _ _

/-- **Stored types have distinct keys**: declarations have, and extensions are laid over them. -/
theorem distinct_stored {r : Registry} (hr : r.Reachable) {t : TypeId} {d : TypeDefinition}
    (hd : r.snapshot.type? t = some d) : d.toRules.Distinct := by
  have hs : Contents.Sound _ := hr.sound
  obtain ⟨name, ops, rfl⟩ := hr
  obtain ⟨reg, hreg, hdef⟩ := hs.exists_registration hd
  obtain ⟨before, after, hh, -⟩ := registration_of_reached (reached_run name ops) hreg
  have hdecl : reg.declaration.toRules.Distinct := by
    refine distinct_of_mem_history (?_ : _ ∈ ({ name } : Registry).history ops)
    rw [hh]
    exact List.mem_append_right _ List.mem_cons_self
  rw [hdef]
  exact distinct_extendAll hdecl reg.extensions

/-- **Copies are faithful.** A draft that is taken up again from what another one amounts to goes
the same way as that one: after any further calls both amount to the same declaration, and the same
calls are refused. What is taken up from a stored type of any reachable state amounts to the stored
definition, but for what it has from its ancestors and who extended it. -/
theorem copies_are_faithful :
    (∀ draft : TypeDraft, draft.Made → ∀ (scope scope' : Option Value) (calls : List (List Clause)),
      ((TypeDraft.ofDeclaration (draft.build scope)).callAll calls).1.build scope' =
          (draft.callAll calls).1.build scope' ∧
        ((TypeDraft.ofDeclaration (draft.build scope)).callAll calls).2 =
          (draft.callAll calls).2) ∧
    ∀ r : Registry, r.Reachable → ∀ t d, r.snapshot.type? t = some d →
      ((TypeDraft.ofDeclaration d.toDeclaration).build d.scope).define =
        { d with standing := .root, extendedBy := [] } := by
  constructor
  · intro draft hmade scope scope' calls
    rw [TypeDraft.ofDeclaration_build hmade.distinct scope]
    exact ⟨rfl, rfl⟩
  · intro r hr t d hd
    rw [TypeDraft.build_ofDeclaration (distinct_stored hr hd)]
    rfl

/-- A draft that declares an attribute and then its rule by hand. The first call is refused half
way. -/
def pictureDraft : TypeDraft :=
  (TypeDraft.callAll { id := ⟨"file", "picture"⟩ }
    [[.attribute "rating" "int", .attribute " " "int"],
      [.acceptChildren "attr" "int" "rating" true]]).1

/-- Calls that declare the attribute twice again, with one that is refused in between. -/
def ratingCalls : List (List Clause) :=
  [[.attribute "rating" "double"], [.inheritParts "file" "*"], [.attribute "rating" "int"]]

/-- What the draft amounts to after the calls. -/
def ratingDeclaration : Declaration :=
  { id := ⟨"file", "picture"⟩
    children := [{ family := "attr", subtype := "int", name := "rating" },
      { family := "attr", subtype := "double", name := "rating" }]
    attributes := [{ name := "rating", valueType := .int }] }

/-- The rules of the copy stand where those of the draft do, and the extended type is copied with
its extension. -/
theorem copies_are_faithful_picture :
    pictureDraft.Made ∧
      ((TypeDraft.ofDeclaration (pictureDraft.build (some "core"))).callAll ratingCalls).1.build =
        ratingDeclaration ∧
      (({ name := "files" } : Registry).run themeRun).snapshot.type? ⟨"file", "base"⟩ =
        some themedBase ∧
      ((TypeDraft.ofDeclaration themedBase.toDeclaration).build (some "core")).define =
        { themedBase with extendedBy := [] } := by
  have hmade : pictureDraft.Made := .called (.opened _ _ _) _
  have hpicture : (pictureDraft.callAll ratingCalls).1.build = ratingDeclaration := by
    decide +kernel
  have hd : (({ name := "files" } : Registry).run themeRun).snapshot.type? ⟨"file", "base"⟩ =
      some themedBase := by decide +kernel
  obtain ⟨hdraft, hstored⟩ := copies_are_faithful
  exact ⟨hmade, (hdraft _ hmade _ _ _).1.trans hpicture, hd, hstored _ ⟨_, _, rfl⟩ _ _ hd⟩

end Taxonomy
