import Taxonomy.Registry.Contents
import Taxonomy.Proofs.Inheritance.Settling

/-!
# Resolving the deferred types

What the resolution step does to coherent contents: afterwards every type stands as its declared
parents decide, and the result is the number of types that were resolved.

* `types_resolveDeferred`: the stored types afterwards, whether or not anything was published.
* `result_resolveDeferred`: what the result counts.
* `resolveDeferred_of_settled`: there is nothing to do once all types are settled.
-/

namespace Taxonomy

open TypeCatalog

/-- The contents after a change, be they new or not. -/
def Change.after {α : Type} (ch : Change α) (c : Contents) : Contents :=
  match ch.update with
  | none => c
  | some (c', _) => c'

variable {types : TypeCatalog} {c : Contents}

/-- The ids of the deferred types. -/
def pending (types : TypeCatalog) : List TypeId := (types.entries.filter (·.isDeferred)).map (·.id)

theorem mem_pending_iff {a : TypeDefinition} (ha : a ∈ types.entries) :
    a.id ∈ pending types ↔ a.standing = .deferred := by
  simp only [pending, List.mem_map, List.mem_filter, TypeDefinition.isDeferred, beq_iff_eq]
  constructor
  · rintro ⟨b, ⟨hb, hs⟩, hid⟩
    rwa [eq_of_mem hb ha hid] at hs
  · exact fun hs => ⟨a, ⟨ha, hs⟩, rfl⟩

theorem nodup_pending (types : TypeCatalog) : (pending types).Nodup :=
  types.nodup.sublist (List.filter_sublist.map _)

theorem stored_pending (types : TypeCatalog) : Stored types (pending types) := by
  intro t ht
  obtain ⟨a, ha, rfl⟩ := List.mem_map.1 ht
  exact ⟨a, (List.mem_filter.1 ha).1, rfl⟩

theorem unresolved_of_mem_pending {a : TypeDefinition} (ha : a ∈ types.entries)
    (h : a.id ∈ pending types) : a.isResolved = false := by
  rw [TypeDefinition.isResolved, (mem_pending_iff ha).1 h]
  rfl

/-- **All deferred types are candidates**, so that each of them is settled. -/
theorem standingAfter_pending (hc : Coherent types) (d : Declaration) :
    standingAfter types (pending types) d = settledStanding types d := by
  cases he : types.ending d with
  | cycle members => exact (standingWhere_of_cycle he).trans (standingWhere_of_cycle he).symm
  | missing t => exact (standingWhere_of_missing he).trans (standingWhere_of_missing he).symm
  | complete =>
    refine standingWhere_eq_settled (isResolved_standingWhere_iff.2 ⟨he, fun b hb => ?_⟩)
    obtain ⟨x, hx, rfl, hxe, -⟩ := exists_above he hb
    rw [isResolvedAt_of_mem hx, Bool.or_eq_true, List.contains_iff_mem, mem_pending_iff hx]
    refine (hc.standing x hx).imp (fun hs => ?_) And.left
    rw [TypeDefinition.isResolved, hs]
    exact isResolved_settledStanding_iff.2 hxe

/-- **What settling the deferred types leads to.** -/
theorem settle_pending (hc : Coherent types) :
    (settle types (pending types)).types =
      types.restand fun a => settledStanding types a.toDeclaration := by
  rw [settle_types (stored_pending types) fun a ha h => unresolved_of_mem_pending ha h]
  refine restand_congr fun a ha => ?_
  by_cases hp : a.id ∈ pending types
  · rw [if_pos hp, standingAfter_pending hc a.toDeclaration]
  · rw [if_neg hp]
    refine (hc.standing a ha).resolve_right fun hs => hp ?_
    exact (mem_pending_iff ha).2 hs.1

/-- Types that were given the standings that their parents decide are settled. -/
theorem isSettled_restand (types : TypeCatalog) :
    IsSettled (types.restand fun a => settledStanding types a.toDeclaration) := by
  intro a ha
  obtain ⟨b, -, rfl⟩ := mem_restand.1 ha
  rw [settledStanding_restand]

theorem IsSettled.restand_eq (h : IsSettled types) :
    (types.restand fun a => settledStanding types a.toDeclaration) = types :=
  (restand_congr fun a ha => (h a ha).symm).trans restand_self

/-- Types of which settling resolves none and finds none cyclic are settled already. -/
theorem isSettled_of_settle (hc : Coherent types)
    (hr : (settle types (pending types)).resolved = [])
    (hy : (settle types (pending types)).cyclic = []) : IsSettled types := by
  intro a ha
  refine (hc.standing a ha).elim id fun ⟨hs, _⟩ => ?_
  have hp : a.id ∈ pending types := (mem_pending_iff ha).2 hs
  have hst := standingAfter_pending hc a.toDeclaration
  cases he : types.ending a.toDeclaration with
  | missing t => rw [hs, settledStanding, standingWhere_of_missing he]
  | complete =>
    have hm : a.id ∈ (settle types (pending types)).resolved :=
      (mem_settle_resolved (stored_pending types)).2
        ⟨hp, a, ha, rfl, by rw [hst]; exact isResolved_settledStanding_iff.2 he⟩
    rw [hr] at hm
    exact absurd hm List.not_mem_nil
  | cycle members =>
    have hm : a.id ∈ (settle types (pending types)).cyclic :=
      (mem_settle_cyclic (stored_pending types) fun a ha h => unresolved_of_mem_pending ha h).2
        ⟨a, ha, rfl, hp, by rw [hst]; exact standingWhere_of_cycle he⟩
    rw [hy] at hm
    exact absurd hm List.not_mem_nil

/-- The two cases of the resolution step. -/
theorem resolveDeferred_cases (hc : Coherent c.types) :
    (IsSettled c.types ∧ c.resolveDeferred = ⟨0, none⟩) ∨
      c.resolveDeferred = ⟨(settle c.types (pending c.types)).resolved.length,
        some ({ c with
          types := c.types.restand fun a => settledStanding c.types a.toDeclaration },
          pending c.types)⟩ := by
  have hp : (c.types.entries.filter (·.isDeferred)).map (·.id) = pending c.types := rfl
  rw [Contents.resolveDeferred, hp, settle_pending hc]
  split
  · next h =>
    rw [Bool.and_eq_true, List.isEmpty_iff, List.isEmpty_iff] at h
    exact .inl ⟨isSettled_of_settle hc h.1 h.2, rfl⟩
  · exact .inr rfl

/-- **After the step every type stands as its declared parents decide**; nothing else changes. -/
theorem after_resolveDeferred (hc : Coherent c.types) :
    c.resolveDeferred.after c =
      { c with types := c.types.restand fun a => settledStanding c.types a.toDeclaration } := by
  rcases resolveDeferred_cases hc with ⟨hs, h⟩ | h
  · rw [h, hs.restand_eq]; rfl
  · rw [h]; rfl

/-- The deferred types whose chain is complete are resolved. -/
theorem mem_resolved_iff (hc : Coherent types) {a : TypeDefinition} (ha : a ∈ types.entries) :
    a.id ∈ (settle types (pending types)).resolved ↔
      a.isResolved = false ∧ (settledStanding types a.toDeclaration).isResolved = true := by
  rw [mem_settle_resolved (stored_pending types), ← standingAfter_pending hc]
  constructor
  · rintro ⟨hp, b, hb, hid, hr⟩
    rw [eq_of_mem hb ha hid] at hr
    exact ⟨unresolved_of_mem_pending ha hp, hr⟩
  · rintro ⟨hu, hr⟩
    refine ⟨(mem_pending_iff ha).2 ?_, a, ha, rfl, hr⟩
    rcases hc.standing a ha with hs | hs
    · rw [standingAfter_pending hc, ← hs] at hr
      rw [TypeDefinition.isResolved, hr] at hu
      cases hu
    · exact hs.1

theorem resolved_of_settled (h : IsSettled types) :
    (settle types (pending types)).resolved = [] := by
  refine List.eq_nil_iff_forall_not_mem.2 fun t ht => ?_
  have hp := ((mem_settle_resolved (stored_pending types)).1 ht).1
  obtain ⟨a, ha, rfl⟩ := stored_pending types t hp
  obtain ⟨hu, hr⟩ := (mem_resolved_iff h.coherent ha).1 ht
  rw [TypeDefinition.isResolved, h a ha, hr] at hu
  cases hu

theorem cyclic_of_settled (h : IsSettled types) : (settle types (pending types)).cyclic = [] := by
  refine List.eq_nil_iff_forall_not_mem.2 fun t ht => ?_
  obtain ⟨a, ha, rfl, hp, hs⟩ := (mem_settle_cyclic (stored_pending types)
    fun a ha h => unresolved_of_mem_pending ha h).1 ht
  rw [standingAfter_pending h.coherent, ← h a ha, (mem_pending_iff ha).1 hp] at hs
  cases hs

/-- **There is nothing to do** once all types are settled. -/
theorem resolveDeferred_of_settled (h : IsSettled c.types) : c.resolveDeferred = ⟨0, none⟩ := by
  have hp : (c.types.entries.filter (·.isDeferred)).map (·.id) = pending c.types := rfl
  rw [Contents.resolveDeferred, hp, resolved_of_settled h, cyclic_of_settled h]
  rfl

/-- **The result is the number of types that were unresolved and are resolved now.** -/
theorem result_resolveDeferred (hc : Coherent c.types) :
    c.resolveDeferred.result = c.types.keys.countP fun t =>
      !c.types.isResolvedAt t && (c.resolveDeferred.after c).types.isResolvedAt t := by
  have hlen : c.resolveDeferred.result = (settle c.types (pending c.types)).resolved.length := by
    rcases resolveDeferred_cases hc with ⟨hs, h⟩ | h
    · rw [h, resolved_of_settled hs]; rfl
    · rw [h]
  -- both lists hold the types that were resolved, each once
  rw [hlen, after_resolveDeferred hc, List.countP_eq_length_filter]
  refine ((List.perm_ext_iff_of_nodup (nodup_settle_resolved (stored_pending _) (nodup_pending _))
    (List.filter_sublist.nodup c.types.nodup)).2 fun t => ?_).length_eq
  rw [List.mem_filter]
  constructor
  · intro ht
    obtain ⟨a, ha, rfl⟩ := stored_pending _ t ((mem_settle_resolved (stored_pending _)).1 ht).1
    obtain ⟨hu, hr⟩ := (mem_resolved_iff hc ha).1 ht
    refine ⟨List.mem_map_of_mem ha, ?_⟩
    rw [isResolvedAt_of_mem ha, hu, isResolvedAt_restand, Catalog.find?_of_mem ha, Option.any_some,
      hr]
    rfl
  · rintro ⟨hk, ht⟩
    obtain ⟨a, ha, rfl⟩ := List.mem_map.1 hk
    rw [isResolvedAt_of_mem ha, isResolvedAt_restand, Catalog.find?_of_mem ha, Option.any_some,
      Bool.and_eq_true, Bool.not_eq_true'] at ht
    exact (mem_resolved_iff hc ha).2 ht

end Taxonomy
