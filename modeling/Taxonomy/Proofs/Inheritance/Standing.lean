import Mathlib.Tactic.Common
import Taxonomy.Proofs.Inheritance.Walk

/-!
# Where types stand

`standing` asks of the stored types whether those on a chain are resolved already. Apart from that
question it depends on declarations only.

* `standingWhere`: the standing of a type where a test tells which types count as resolved.
* `settledStanding`: the standing that the declared parents alone decide.
* `standing_eq`: the two agree with what is looked up among the stored types.
-/

namespace Taxonomy

variable {types types' : TypeCatalog} {d : Declaration} {ok : TypeId → Bool}

theorem all_congr_of_mem {α : Type _} {as : List α} {p q : α → Bool} (h : ∀ a ∈ as, p a = q a) :
    as.all p = as.all q := by
  rw [Bool.eq_iff_iff, List.all_eq_true, List.all_eq_true]
  exact forall₂_congr fun a ha => by rw [h a ha]

/-- What a type has from a chain of declarations, the nearest first. -/
def heritageOf (chain : List Declaration) : Heritage :=
  { ({} : Rules).nearest (Rules.concat (chain.map (·.toRules))) with
    ancestors := chain.map (·.id) }

theorem heritage_eq (chain : List TypeDefinition) :
    heritage chain = heritageOf (chain.map (·.toDeclaration)) := by
  simp only [heritage, heritageOf, List.map_map, Function.comp_def]

/-- Is a type stored and resolved? -/
def TypeCatalog.isResolvedAt (types : TypeCatalog) (t : TypeId) : Bool :=
  (types.find? t).any (·.isResolved)

/-- **The standing of a type** where a test tells which types count as resolved. -/
def standingWhere (ok : TypeId → Bool) (types : TypeCatalog) (d : Declaration) : Standing :=
  match types.ending d with
  | .cycle _ => .cyclic
  | .missing _ => .deferred
  | .complete =>
    if (types.chain d).isEmpty then .root
    else if (types.chain d).all (ok ·.id) then .resolved (heritageOf (types.chain d))
    else .deferred

/-- **The standing that the declared parents alone decide.** -/
def settledStanding (types : TypeCatalog) (d : Declaration) : Standing :=
  standingWhere (fun _ => true) types d

/-- **What is looked up is which types count as resolved**; all else is declared. -/
theorem standing_eq (d : Declaration) (types : TypeCatalog) :
    standing d types.entries = standingWhere types.isResolvedAt types d := by
  have hall : (walk d types.entries).chain.all (·.isResolved) =
      (types.chain d).all (types.isResolvedAt ·.id) := by
    rw [TypeCatalog.chain, List.all_map]
    refine all_congr_of_mem fun a ha => ?_
    simp [TypeCatalog.isResolvedAt, find?_of_mem_walk ha]
  have hempty : (walk d types.entries).chain.isEmpty = (types.chain d).isEmpty := by
    rw [TypeCatalog.chain, List.isEmpty_map]
  have hher : heritage (walk d types.entries).chain = heritageOf (types.chain d) := heritage_eq _
  have hend : (walk d types.entries).ending = types.ending d := rfl
  cases he : types.ending d with
  | cycle members => simp only [standing, standingWhere, hend, he]
  | missing t => simp only [standing, standingWhere, hend, he]
  | complete => simp only [standing, standingWhere, hend, he, hempty, hall, hher]

/-! ## The cases of a standing -/

theorem standingWhere_of_cycle {members : List TypeId} (h : types.ending d = .cycle members) :
    standingWhere ok types d = .cyclic := by
  rw [standingWhere, h]

theorem standingWhere_of_missing {t : TypeId} (h : types.ending d = .missing t) :
    standingWhere ok types d = .deferred := by
  rw [standingWhere, h]

theorem standingWhere_of_top (h : types.ending d = .complete) (hc : types.chain d = []) :
    standingWhere ok types d = .root := by
  rw [standingWhere, h, hc]; rfl

theorem standingWhere_of_all (h : types.ending d = .complete) (hc : types.chain d ≠ [])
    (hok : ∀ a ∈ types.chain d, ok a.id = true) :
    standingWhere ok types d = .resolved (heritageOf (types.chain d)) := by
  simp only [standingWhere, h, List.isEmpty_iff, hc, if_false, List.all_eq_true.2 hok, if_true]

theorem standingWhere_of_not_all (h : types.ending d = .complete)
    (hok : ¬ ∀ a ∈ types.chain d, ok a.id = true) : standingWhere ok types d = .deferred := by
  have hc : types.chain d ≠ [] := fun hc => hok (by simp [hc])
  have hok' : ¬ (types.chain d).all (ok ·.id) = true := fun ha => hok (List.all_eq_true.1 ha)
  simp only [standingWhere, h, List.isEmpty_iff, hc, if_false, hok', Bool.false_eq_true]

/-- A type is resolved when its chain is complete and all on it count as resolved. -/
theorem isResolved_standingWhere_iff :
    (standingWhere ok types d).isResolved = true ↔
      types.ending d = .complete ∧ ∀ a ∈ types.chain d, ok a.id = true := by
  cases h : types.ending d with
  | cycle members => simp [standingWhere_of_cycle h, Standing.isResolved]
  | missing t => simp [standingWhere_of_missing h, Standing.isResolved]
  | complete =>
    by_cases hok : ∀ a ∈ types.chain d, ok a.id = true
    · by_cases hc : types.chain d = []
      · simp [standingWhere_of_top h hc, Standing.isResolved, hc]
      · rw [standingWhere_of_all h hc hok]
        simp only [Standing.isResolved, true_and, true_iff]
        exact hok
    · rw [standingWhere_of_not_all h hok]
      simp only [Standing.isResolved, Bool.false_eq_true, true_and, false_iff]
      exact hok

/-- Exactly the types whose chain comes back are cyclic. -/
theorem standingWhere_eq_cyclic_iff :
    standingWhere ok types d = .cyclic ↔ ∃ members, types.ending d = .cycle members := by
  cases h : types.ending d with
  | cycle members => simp [standingWhere_of_cycle h]
  | missing t => simp [standingWhere_of_missing h]
  | complete =>
    simp only [standingWhere, h]
    split
    · simp
    · split <;> simp

/-- Exactly the types without a parent are roots. -/
theorem standingWhere_eq_root_iff : standingWhere ok types d = .root ↔ d.parent = none := by
  refine ⟨fun h => ?_, fun h => ?_⟩
  · cases he : types.ending d with
    | cycle members => rw [standingWhere_of_cycle he] at h; cases h
    | missing t => rw [standingWhere_of_missing he] at h; cases h
    | complete =>
      have hc : types.chain d = [] := by
        by_contra hc
        by_cases hok : ∀ a ∈ types.chain d, ok a.id = true
        · rw [standingWhere_of_all he hc hok] at h; cases h
        · rw [standingWhere_of_not_all he hok] at h; cases h
      rw [parent_of_complete he, hc]; rfl
  · obtain ⟨he, hc⟩ := ending_of_no_parent types h
    exact standingWhere_of_top he hc

theorem standingWhere_congr {ok' : TypeId → Bool}
    (h : ∀ a ∈ types.chain d, ok a.id = ok' a.id) :
    standingWhere ok types d = standingWhere ok' types d := by
  simp only [standingWhere, all_congr_of_mem h]

/-- A type that is resolved under some test stands as its declared parents decide. -/
theorem standingWhere_eq_settled (h : (standingWhere ok types d).isResolved = true) :
    standingWhere ok types d = settledStanding types d :=
  standingWhere_congr fun a ha => (isResolved_standingWhere_iff.1 h).2 a ha

theorem isResolved_settledStanding_iff :
    (settledStanding types d).isResolved = true ↔ types.ending d = .complete := by
  rw [settledStanding, isResolved_standingWhere_iff]
  exact and_iff_left fun _ _ => rfl

/-- By the declared parents alone, exactly the types with a missing ancestor are deferred. -/
theorem settledStanding_eq_deferred_iff :
    settledStanding types d = .deferred ↔ ∃ t, types.ending d = .missing t := by
  cases h : types.ending d with
  | cycle members => simp [settledStanding, standingWhere_of_cycle h]
  | missing t => simp [settledStanding, standingWhere_of_missing h]
  | complete =>
    have := isResolved_settledStanding_iff.2 h
    simp only [reduceCtorEq, exists_false, iff_false]
    intro hd
    rw [hd] at this
    cases this

theorem settledStanding_eq_resolved_iff {g : Heritage} :
    settledStanding types d = .resolved g ↔
      types.ending d = .complete ∧ types.chain d ≠ [] ∧ g = heritageOf (types.chain d) := by
  refine ⟨fun h => ?_, ?_⟩
  · have he := isResolved_settledStanding_iff.1 (by rw [h]; rfl)
    by_cases hc : types.chain d = []
    · rw [settledStanding, standingWhere_of_top he hc] at h; cases h
    · rw [settledStanding, standingWhere_of_all he hc fun _ _ => rfl, Standing.resolved.injEq] at h
      exact ⟨he, hc, h.symm⟩
  · rintro ⟨he, hc, rfl⟩
    exact standingWhere_of_all he hc fun _ _ => rfl

/-- **Standings agree where the declarations do.** -/
theorem settledStanding_congr (h : ∀ q ≠ d.id, types.declaration? q = types'.declaration? q) :
    settledStanding types d = settledStanding types' d := by
  simp only [settledStanding, standingWhere, ending_congr h, chain_congr h]

/-- Whatever counts as resolved, a type stands as its declared parents decide or is deferred. -/
theorem standingWhere_eq_settled_or :
    standingWhere ok types d = settledStanding types d ∨ standingWhere ok types d = .deferred := by
  cases he : types.ending d with
  | cycle members =>
    exact .inl ((standingWhere_of_cycle he).trans (standingWhere_of_cycle he).symm)
  | missing t => exact .inr (standingWhere_of_missing he)
  | complete =>
    by_cases hok : ∀ a ∈ types.chain d, ok a.id = true
    · exact .inl (standingWhere_eq_settled (isResolved_standingWhere_iff.2 ⟨he, hok⟩))
    · exact .inr (standingWhere_of_not_all he hok)

theorem parent_ne_none_of_deferred (h : standingWhere ok types d = .deferred) :
    d.parent ≠ none := by
  intro hp
  rw [standingWhere_eq_root_iff.2 hp] at h
  cases h

end Taxonomy
