import Taxonomy.Proofs.Registry.History

/-!
# Inherited views

What a stored type has from its ancestors is kept with the type itself. In every
state that a run can lead to, what is kept is what the parent has now.

* `type_inherits`: a resolved type has what its parent has, in the same order;
  a type that is not resolved has nothing from others; and no type is among its
  own ancestors.
-/

namespace Taxonomy

open Registry

/-- **Inherited views are those of the parent as it is stored now**, in every
reachable state. -/
theorem type_inherits {r : Registry} (hr : r.Reachable) {t : TypeId} {d : TypeDefinition}
    (hd : r.snapshot.type? t = some d) :
    ∃ reg, r.snapshot.contents.registrations.find? t = some reg ∧
      (d.standing = .root ↔ reg.declaration.parent = none) ∧
      (∀ h, d.standing = .resolved h → ∃ p P, reg.declaration.parent = some p ∧
        r.snapshot.type? p = some P ∧ P.isResolved = true ∧
        d.ancestors = p :: P.ancestors ∧ d.inherited = P.effective) ∧
      ((∀ h, d.standing ≠ .resolved h) → d.ancestors = [] ∧ d.inherited = {}) ∧
      t ∉ d.ancestors := by
  have hs := hr.sound
  obtain ⟨reg, hreg, hdef⟩ := hs.exists_registration hd
  obtain ⟨hm, hid⟩ := Catalog.find?_eq_some_iff.1 hd
  have hpar : d.parent = reg.declaration.parent := by rw [hdef, define_parent]
  refine ⟨reg, hreg, ?_, ?_, ?_, ?_⟩
  · rw [hs.coherent.root_iff hm, hpar]
  · intro h hh
    obtain ⟨p, P, hp, hP, hres, hanc, hinh⟩ := hs.coherent.inherits hm hh
    have hPid : P.id = p := (Catalog.find?_eq_some_iff.1 hP).2
    refine ⟨p, P, by rw [← hpar, hp], hP, hres, ?_, ?_⟩
    · rw [← hPid, ← hanc, TypeDefinition.ancestors, hh]
    · rw [← hinh, TypeDefinition.inherited, hh]
  · intro hu
    unfold TypeDefinition.ancestors TypeDefinition.inherited
    cases hst : d.standing with
    | resolved h => exact absurd hst (hu h)
    | root => exact ⟨rfl, rfl⟩
    | deferred => exact ⟨rfl, rfl⟩
    | cyclic => exact ⟨rfl, rfl⟩
  · rw [← hid]
    exact hs.coherent.not_mem_ancestors hm

/-- A run in which a type is registered before its parent, and the parent is
extended after both are resolved. -/
def folderRun : List Operation :=
  [.register (.id ⟨"file", "folder"⟩) [.inherit (.id ⟨"file", "base"⟩)] .none,
    .register (.id ⟨"file", "base"⟩) [] (.value "core"),
    .resolveDeferred,
    .commit
      { existing := { id := ⟨"file", "base"⟩ }, rules := { children := [{ family := "file" }] } }
      (.value "plugin")]

/-- What the run leaves of the type that was registered first. -/
def folder : TypeDefinition :=
  { id := ⟨"file", "folder"⟩
    parent := some ⟨"file", "base"⟩
    standing := .resolved { children := [{ family := "file" }], ancestors := [⟨"file", "base"⟩] } }

theorem type_inherits_folder :
    (({ name := "files" } : Registry).run folderRun).snapshot.type? ⟨"file", "folder"⟩ =
        some folder ∧
      ∃ p P, (({ name := "files" } : Registry).run folderRun).snapshot.type? p = some P ∧
        P.isResolved = true ∧ folder.ancestors = p :: P.ancestors ∧
        folder.inherited = P.effective := by
  have hd : (({ name := "files" } : Registry).run folderRun).snapshot.type? ⟨"file", "folder"⟩ =
      some folder := by decide +kernel
  obtain ⟨reg, -, -, hres, -, -⟩ := type_inherits ⟨"files", folderRun, rfl⟩ hd
  obtain ⟨p, P, -, hP⟩ := hres _ rfl
  exact ⟨hd, p, P, hP⟩

end Taxonomy
