import Taxonomy.Registry.Contents
import Taxonomy.Proofs.Inheritance.Settling

/-!
# Building the types anew

What a release does to the types that remain: all of them are taken as deferred first; then those
that were not resolved before are held back, and the others are settled.

* `holding_eq`: a type that is held back is cyclic or deferred.
* `rebuild_eq`: what the release leads to, said at once for all types.
* `isResolved_rebuiltStanding_iff`, `rebuiltStanding_eq_cyclic_iff`: where the types stand then.
* `coherent_rebuilt`: the standings that it leads to are coherent.
-/

namespace Taxonomy

open TypeCatalog

variable {types : TypeCatalog} {held : TypeId → Bool}

/-- The standing of a type that is held back. -/
def holding (types : TypeCatalog) (d : Declaration) : Standing :=
  match standing d types.entries with
  | .cyclic => .cyclic
  | _ => .deferred

/-- A type that is held back is cyclic or deferred, as its chain ends. -/
theorem holding_eq (types : TypeCatalog) (d : Declaration) :
    holding types d = match types.ending d with
      | .cycle _ => .cyclic
      | _ => .deferred := by
  have hcyc : standingWhere types.isResolvedAt types d = .cyclic ↔ _ := standingWhere_eq_cyclic_iff
  rw [holding, standing_eq]
  cases he : types.ending d with
  | cycle members => rw [standingWhere_of_cycle he]
  | missing t => rw [standingWhere_of_missing he]
  | complete =>
    have hn : standingWhere types.isResolvedAt types d ≠ .cyclic := by simp [hcyc, he]
    split
    · next h => exact absurd h hn
    · rfl

/-- Where other types stand does not matter for a type that is held back. -/
theorem holding_restand (f : TypeDefinition → Standing) (d : Declaration) :
    holding (types.restand f) d = holding types d := by
  rw [holding_eq, holding_eq, ending_restand]

theorem isResolved_holding (types : TypeCatalog) (d : Declaration) :
    (holding types d).isResolved = false := by
  rw [holding_eq]
  split <;> rfl

theorem holding_cases (types : TypeCatalog) (d : Declaration) :
    holding types d = settledStanding types d ∨ holding types d = .deferred := by
  rw [holding_eq]
  cases he : types.ending d with
  | cycle members => exact .inl (standingWhere_of_cycle he).symm
  | missing t => exact .inr rfl
  | complete => exact .inr rfl

theorem holdBack_eq : Contents.holdBack = restandAt holding := by
  funext types t
  rw [Contents.holdBack, restandAt]
  cases types.find? t with
  | none => rfl
  | some a => rfl

/-- **The types when they are built anew**: some are held back, and the others are settled. -/
def rebuilt (types : TypeCatalog) (held : TypeId → Bool) : TypeCatalog :=
  types.restand fun a =>
    if held a.id then holding types a.toDeclaration
    else standingAfter types (types.keys.filter (!held ·)) a.toDeclaration

theorem id_mem_keys {a : TypeDefinition} (ha : a ∈ types.entries) : a.id ∈ types.keys :=
  List.mem_map_of_mem ha

theorem mem_filter_keys {a : TypeDefinition} (ha : a ∈ types.entries) (p : TypeId → Bool) :
    a.id ∈ types.keys.filter p ↔ p a.id = true := by
  rw [List.mem_filter]
  exact and_iff_right (id_mem_keys ha)

theorem stored_filter_keys (types : TypeCatalog) (p : TypeId → Bool) :
    Stored types (types.keys.filter p) := by
  intro t ht
  obtain ⟨a, ha, rfl⟩ := List.mem_map.1 (List.mem_filter.1 ht).1
  exact ⟨a, ha, rfl⟩

/-- Types that are held back, one after the other. -/
theorem foldl_holdBack {ts : List TypeId}
    (hu : ∀ a ∈ types.entries, a.id ∈ ts → a.isResolved = false) :
    ts.foldl Contents.holdBack types =
      types.restand fun a => if a.id ∈ ts then holding types a.toDeclaration else a.standing := by
  have h := foldl_restandAt (g := holding) (f := (·.standing)) (fun f _ d => holding_restand f d)
    (fun a ha ht => (isResolved_holding types a.toDeclaration).trans (hu a ha ht).symm)
    (fun _ _ => rfl)
  rwa [restand_self, ← holdBack_eq] at h

/-- **What a release leads to.** -/
theorem rebuild_eq (hu : ∀ a ∈ types.entries, a.isResolved = false) (held : TypeId → Bool) :
    (types.keys.filter held).foldl Contents.holdBack
        (settle types (types.keys.filter (!held ·))).types =
      rebuilt types held := by
  have hfree : ∀ a ∈ types.entries, a.id ∈ types.keys.filter (!held ·) ↔ ¬ held a.id = true :=
    fun a ha => by rw [mem_filter_keys ha, Bool.not_eq_true', Bool.not_eq_true]
  rw [settle_types (stored_filter_keys types _) fun a ha _ => hu a ha, foldl_holdBack,
    restand_restand]
  · refine restand_congr fun a ha => ?_
    simp only [mem_filter_keys ha held, hfree a ha, holding_restand]
    by_cases hh : held a.id = true
    · rw [if_pos hh, if_pos hh]
    · rw [if_neg hh, if_neg hh, if_pos hh]
  · intro x hx ht
    obtain ⟨a, ha, rfl⟩ := mem_restand.1 hx
    have hh : held a.id = true := (mem_filter_keys ha held).1 ht
    simp only [TypeDefinition.isResolved, hfree a ha, hh, not_true_eq_false, if_false]
    exact hu a ha

section Rebuilt

variable {a : TypeDefinition}

/-- The standing of a type that is built anew. -/
def rebuiltStanding (types : TypeCatalog) (held : TypeId → Bool) (a : TypeDefinition) : Standing :=
  if held a.id then holding types a.toDeclaration
  else standingAfter types (types.keys.filter (!held ·)) a.toDeclaration

theorem rebuilt_eq (types : TypeCatalog) (held : TypeId → Bool) :
    rebuilt types held = types.restand (rebuiltStanding types held) := rfl

/-- **Who is resolved when types are built anew**: a type that is not held back, with a complete
chain on which nobody is. -/
theorem isResolved_rebuiltStanding_iff (hu : ∀ a ∈ types.entries, a.isResolved = false) :
    (rebuiltStanding types held a).isResolved = true ↔ held a.id = false ∧
      types.ending a.toDeclaration = .complete ∧
      ∀ b ∈ types.chain a.toDeclaration, held b.id = false := by
  have hnone : ∀ t, types.isResolvedAt t = false := by
    intro t
    rw [isResolvedAt]
    cases hf : types.find? t with
    | none => rfl
    | some a => exact hu a (Catalog.mem_of_find? hf)
  rw [rebuiltStanding]
  by_cases hh : held a.id = true
  · simp [hh, isResolved_holding]
  rw [if_neg hh, standingAfter, isResolved_standingWhere_iff]
  simp only [hnone, Bool.false_or, List.contains_iff_mem, List.mem_filter, Bool.not_eq_true']
  constructor
  · rintro ⟨he, hok⟩
    exact ⟨by simpa using hh, he, fun b hb => (hok b hb).2⟩
  · rintro ⟨-, he, hfree⟩
    refine ⟨he, fun b hb => ⟨?_, hfree b hb⟩⟩
    -- all types on a complete chain are stored
    obtain ⟨x, hx, rfl, -⟩ := exists_above he hb
    exact id_mem_keys hx

/-- **Who is cyclic when types are built anew**, held back or not. -/
theorem rebuiltStanding_eq_cyclic_iff :
    rebuiltStanding types held a = .cyclic ↔
      ∃ members, types.ending a.toDeclaration = .cycle members := by
  rw [rebuiltStanding]
  split
  · rw [holding_eq]
    cases types.ending a.toDeclaration <;> simp
  · exact standingWhere_eq_cyclic_iff

/-- **What is built anew is coherent**, provided that types without a parent are not held back. -/
theorem coherent_rebuilt (hu : ∀ a ∈ types.entries, a.isResolved = false)
    (hp : ∀ a ∈ types.entries, held a.id = true → a.parent ≠ none) :
    Coherent (rebuilt types held) := by
  rw [rebuilt_eq]
  constructor
  · intro x hx
    obtain ⟨a, ha, rfl⟩ := mem_restand.1 hx
    simp only [settledStanding_restand, rebuiltStanding]
    by_cases hh : held a.id = true
    · rw [if_pos hh]
      exact (holding_cases types a.toDeclaration).imp id fun h => ⟨h, hp a ha hh⟩
    · rw [if_neg hh]
      exact standingWhere_eq_settled_or.imp id fun h => ⟨h, parent_ne_none_of_deferred h⟩
  · intro x hx hr y hy
    obtain ⟨a, ha, rfl⟩ := mem_restand.1 hx
    rw [chain_restand] at hy
    obtain ⟨-, he, hfree⟩ := (isResolved_rebuiltStanding_iff hu).1 hr
    -- who is above a type on such a chain is not held back either
    obtain ⟨b, hb, rfl, hbe, hsub⟩ := exists_above he hy
    rw [isResolvedAt_restand, Catalog.find?_of_mem hb, Option.any_some]
    exact (isResolved_rebuiltStanding_iff hu).2
      ⟨hfree _ hy, hbe, fun z hz => hfree z (hsub hz)⟩

end Rebuilt

end Taxonomy
