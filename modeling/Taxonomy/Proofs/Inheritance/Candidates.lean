import Taxonomy.Proofs.Inheritance.Circles
import Taxonomy.Proofs.Inheritance.Settling

/-!
# Candidates in any order

Settling passes over its candidates again and again, and each pass sees what the ones before it have
resolved. Which candidates it resolves in the end does not depend on the order in which they come,
nor on how often: these are the candidates whose way to the top is free, where it leads through
types that are resolved already or candidates themselves.

* `TypeCatalog.Grounded`: the chain of parents of a type is complete and acyclic.
* `TypeCatalog.Resolvable`: and every ancestor is resolved or a candidate.
* `types_settle`, `mem_settle_resolved_iff`, `mem_settle_cyclic_iff`: the outcome of settling, in
  terms of which types are candidates.
* `candidates_in_any_order`: the order of the candidates does not matter.
-/

namespace Taxonomy

open Relation TypeCatalog

variable {types : TypeCatalog} {K K' : List TypeId} {t u : TypeId} {a : TypeDefinition}
  {d : Declaration}

/-! ## Types that can be resolved -/

/-- **The chain of parents of a type is complete and acyclic**: it leads to a type without a parent,
and none of the types on it comes back to itself. -/
structure TypeCatalog.Grounded (types : TypeCatalog) (t : TypeId) : Prop where
  top : ∃ u a, ReflTransGen types.ChildOf t u ∧ types.declaration? u = some a ∧ a.parent = none
  acyclic : ∀ u, ReflTransGen types.ChildOf t u → ¬ TransGen types.ChildOf u u

/-- **A type can be resolved together with the candidates**: its chain is complete and acyclic, and
every ancestor is resolved already or a candidate. -/
structure TypeCatalog.Resolvable (types : TypeCatalog) (K : List TypeId) (t : TypeId) : Prop
    extends Grounded types t where
  above : ∀ u, TransGen types.ChildOf t u → types.isResolvedAt u = true ∨ u ∈ K

/-- Who has a parent is stored. -/
theorem TypeCatalog.ChildOf.contains (h : types.ChildOf t u) : types.contains t = true := by
  obtain ⟨a, ha, -⟩ := h
  obtain ⟨b, hb, -⟩ := Option.map_eq_some_iff.1 ha
  exact Catalog.contains_iff.2 ⟨b, hb⟩

/-- **A type is grounded exactly if the walk from it is complete.** -/
theorem grounded_iff (hd : types.declaration? t = some d) :
    types.Grounded t ↔ types.ending d = .complete := by
  constructor
  · intro h
    exact (ending_complete_iff hd).2 h.top
  · intro he
    refine ⟨(ending_complete_iff hd).1 he, fun u hu hloop => ?_⟩
    obtain ⟨members, hcycle⟩ := (ending_cycle_iff hd).2 ⟨u, hu, hloop⟩
    rw [he] at hcycle
    cases hcycle

/-- **All that is on the way to the top is stored.** -/
theorem TypeCatalog.Grounded.contains (h : types.Grounded t) (hu : ReflTransGen types.ChildOf t u) :
    types.contains u = true := by
  obtain ⟨top, a, hpath, ha, htop⟩ := h.top
  have hstop : ∀ y, ¬ types.ChildOf top y := by
    rintro y ⟨b, hb, hy⟩
    rw [Option.some.inj (hb.symm.trans ha), htop] at hy
    cases hy
  -- a path leads on to the top, and who makes a step on it is stored
  have hend : ReflTransGen types.ChildOf u top :=
    path_to_end (rightUnique_childOf types) hstop hpath hu
  rcases hend.cases_head with rfl | ⟨y, hy, -⟩
  · obtain ⟨b, hb, -⟩ := Option.map_eq_some_iff.1 ha
    exact Catalog.contains_iff.2 ⟨b, hb⟩
  · exact hy.contains

/-- It only matters which of the ancestors are candidates. -/
theorem TypeCatalog.Resolvable.mono (h : types.Resolvable K t)
    (hsub : ∀ u, TransGen types.ChildOf t u → u ∈ K → u ∈ K') : types.Resolvable K' t :=
  ⟨h.toGrounded, fun u hu => (h.above u hu).imp_right (hsub u hu)⟩

theorem resolvable_congr (h : ∀ t, t ∈ K ↔ t ∈ K') :
    types.Resolvable K t ↔ types.Resolvable K' t :=
  ⟨fun hr => hr.mono fun u _ => (h u).1, fun hr => hr.mono fun u _ => (h u).2⟩

/-- A candidate that is not stored makes no difference. -/
theorem resolvable_filter :
    types.Resolvable (K.filter types.contains) t ↔ types.Resolvable K t := by
  constructor
  · intro h
    exact h.mono fun u _ hm => (List.mem_filter.1 hm).1
  · intro h
    refine h.mono fun u hu hm => List.mem_filter.2 ⟨hm, ?_⟩
    exact h.toGrounded.contains hu.to_reflTransGen

/-! ## The standing after settling -/

/-- The standing after settling depends on which types are candidates. -/
theorem standingAfter_congr
    (h : ∀ b ∈ types.chain d, b.id ∈ K ↔ b.id ∈ K') :
    standingAfter types K d = standingAfter types K' d := by
  refine standingWhere_congr fun b hb => ?_
  have hc : K.contains b.id = K'.contains b.id := by
    rw [Bool.eq_iff_iff, List.contains_iff_mem, List.contains_iff_mem]
    exact h b hb
  rw [hc]

theorem standingAfter_filter :
    standingAfter types (K.filter types.contains) d = standingAfter types K d := by
  refine standingAfter_congr fun b hb => ?_
  obtain ⟨c, hc, rfl⟩ := List.mem_map.1 hb
  have hstored : types.contains c.id = true := Catalog.contains_iff.2 ⟨c, find?_of_mem_walk hc⟩
  exact List.mem_filter.trans (and_iff_left hstored)

/-- **A stored type is resolved after settling exactly if it can be.** -/
theorem isResolved_standingAfter_iff (hd : types.declaration? t = some d) :
    (standingAfter types K d).isResolved = true ↔ types.Resolvable K t := by
  rw [standingAfter, isResolved_standingWhere_iff]
  constructor
  · rintro ⟨he, hok⟩
    refine ⟨(grounded_iff hd).2 he, fun u hu => ?_⟩
    obtain ⟨b, hb, rfl⟩ := (mem_chain_iff hd he).2 hu
    have hb' := hok b hb
    rwa [Bool.or_eq_true, List.contains_iff_mem] at hb'
  · intro h
    have he := (grounded_iff hd).1 h.toGrounded
    refine ⟨he, fun b hb => ?_⟩
    rw [Bool.or_eq_true, List.contains_iff_mem]
    exact h.above b.id ((mem_chain_iff hd he).1 ⟨b, hb, rfl⟩)

/-- A candidate is ready exactly if it can be resolved. -/
theorem ready_iff : Ready types K t ↔ types.Resolvable K t := by
  constructor
  · rintro ⟨a, ha, rfl, hr⟩
    exact (isResolved_standingAfter_iff (declaration?_of_mem ha)).1 hr
  · intro h
    obtain ⟨a, hf⟩ := Catalog.contains_iff.1 (h.toGrounded.contains .refl)
    obtain ⟨ha, rfl⟩ := Catalog.find?_eq_some_iff.1 hf
    exact ⟨a, ha, rfl, (isResolved_standingAfter_iff (declaration?_of_mem ha)).2 h⟩

/-! ## The outcome, whatever the candidates -/

/-- Candidates that are not stored are passed over. -/
theorem settle_filter (types : TypeCatalog) (K : List TypeId) :
    settle types (K.filter types.contains) = settle types K := by
  simp only [settle, List.filter_filter, Bool.and_self]

theorem stored_filter (types : TypeCatalog) (K : List TypeId) :
    Stored types (K.filter types.contains) := by
  intro t ht
  obtain ⟨a, hf⟩ := Catalog.contains_iff.1 (List.mem_filter.1 ht).2
  exact ⟨a, Catalog.find?_eq_some_iff.1 hf⟩

/-- **What settling resolves**: the candidates that can be resolved. -/
theorem mem_settle_resolved_iff :
    t ∈ (settle types K).resolved ↔ t ∈ K ∧ types.Resolvable K t := by
  rw [← settle_filter, mem_settle_resolved (stored_filter types K), ready_iff, resolvable_filter,
    List.mem_filter, and_assoc]
  refine and_congr_right fun _ => and_iff_right_of_imp fun h => ?_
  exact h.toGrounded.contains .refl

section Unresolved

variable (hu : ∀ t ∈ K, types.isResolvedAt t = false)

include hu

theorem unresolved_filter :
    ∀ a ∈ types.entries, a.id ∈ K.filter types.contains → a.isResolved = false := by
  intro a ha hm
  rw [← isResolvedAt_of_mem ha]
  exact hu a.id (List.mem_filter.1 hm).1

/-- **What settling makes of the types**: the candidates stand as their chains and the other
candidates decide, and the other types are as before. -/
theorem types_settle :
    (settle types K).types = types.restand fun a =>
      if a.id ∈ K then standingAfter types K a.toDeclaration else a.standing := by
  rw [← settle_filter, settle_types (stored_filter types K) (unresolved_filter hu)]
  refine restand_congr fun a ha => ?_
  have hstored : types.contains a.id = true :=
    Catalog.contains_iff.2 ⟨a, Catalog.find?_of_mem ha⟩
  simp only [List.mem_filter, hstored, and_true, standingAfter_filter]

/-- **What settling finds cyclic**: the candidates from which a way leads into a loop. -/
theorem mem_settle_cyclic_iff :
    t ∈ (settle types K).cyclic ↔
      t ∈ K ∧ ∃ u, ReflTransGen types.ChildOf t u ∧ TransGen types.ChildOf u u := by
  rw [← settle_filter, mem_settle_cyclic (stored_filter types K) (unresolved_filter hu)]
  constructor
  · rintro ⟨a, ha, rfl, hm, hc⟩
    exact ⟨(List.mem_filter.1 hm).1,
      (ending_cycle_iff (declaration?_of_mem ha)).1 (standingWhere_eq_cyclic_iff.1 hc)⟩
  · rintro ⟨hm, u, hpath, hloop⟩
    -- the first step, on the way to the loop or round it, is made by the candidate
    obtain ⟨p, hstep⟩ : ∃ p, types.ChildOf t p := by
      rcases hpath.cases_head with rfl | ⟨p, hp, -⟩
      · obtain ⟨p, hp, -⟩ := TransGen.head'_iff.1 hloop
        exact ⟨p, hp⟩
      · exact ⟨p, hp⟩
    obtain ⟨a, hf⟩ := Catalog.contains_iff.1 hstep.contains
    obtain ⟨ha, rfl⟩ := Catalog.find?_eq_some_iff.1 hf
    exact ⟨a, ha, rfl, List.mem_filter.2 ⟨hm, hstep.contains⟩, standingWhere_eq_cyclic_iff.2
      ((ending_cycle_iff (declaration?_of_mem ha)).2 ⟨u, hpath, hloop⟩)⟩

/-- **A candidate ends up resolved exactly if it can be.** -/
theorem isResolvedAt_settle (ht : t ∈ K) :
    (settle types K).types.isResolvedAt t = true ↔ types.Resolvable K t := by
  rw [types_settle hu, isResolvedAt_restand]
  cases hf : types.find? t with
  | none =>
    rw [Option.any_none]
    refine iff_of_false Bool.false_ne_true fun h => ?_
    obtain ⟨a, ha⟩ := Catalog.contains_iff.1 (h.toGrounded.contains .refl)
    rw [hf] at ha
    cases ha
  | some a =>
    obtain ⟨ha, rfl⟩ := Catalog.find?_eq_some_iff.1 hf
    rw [Option.any_some, if_pos ht]
    exact isResolved_standingAfter_iff (declaration?_of_mem ha)

/-- **Types that are no candidates are left alone.** -/
theorem find?_settle (ht : t ∉ K) : (settle types K).types.find? t = types.find? t := by
  rw [types_settle hu, find?_restand]
  cases hf : types.find? t with
  | none => rfl
  | some a =>
    have hid : a.id = t := Catalog.find?_key (c := types) hf
    rw [Option.map_some, hid, if_neg ht]

end Unresolved

/-- **The order of the candidates does not matter.** Whatever types are stored, settling leads to
the same definitions and resolves the same candidates, and finds the same ones cyclic, in whichever
order the unresolved candidates come. A candidate ends up resolved exactly if its chain of parents
is complete and acyclic and every ancestor is resolved already or a candidate; and types that are no
candidates stay as they are. -/
theorem candidates_in_any_order (types : TypeCatalog) {K K' : List TypeId} (hperm : K.Perm K')
    (hu : ∀ t ∈ K, types.isResolvedAt t = false) :
    (settle types K).types = (settle types K').types ∧
      (∀ t, t ∈ (settle types K).resolved ↔ t ∈ (settle types K').resolved) ∧
      (∀ t, t ∈ (settle types K).cyclic ↔ t ∈ (settle types K').cyclic) ∧
      (∀ t ∈ K, (t ∈ (settle types K).resolved ↔ types.Resolvable K t) ∧
        ((settle types K).types.isResolvedAt t = true ↔ types.Resolvable K t)) ∧
      ∀ t ∉ K, (settle types K).types.find? t = types.find? t := by
  have hmem : ∀ t, t ∈ K ↔ t ∈ K' := fun t => hperm.mem_iff
  have hu' : ∀ t ∈ K', types.isResolvedAt t = false := fun t ht => hu t ((hmem t).2 ht)
  refine ⟨?_, fun t => ?_, fun t => ?_, fun t ht => ⟨?_, isResolvedAt_settle hu ht⟩,
    fun t ht => find?_settle hu ht⟩
  · rw [types_settle hu, types_settle hu']
    refine restand_congr fun a _ => ?_
    simp only [hmem, standingAfter_congr fun b _ => hmem b.id]
  · rw [mem_settle_resolved_iff, mem_settle_resolved_iff, hmem, resolvable_congr hmem]
  · rw [mem_settle_cyclic_iff hu, mem_settle_cyclic_iff hu', hmem]
  · rw [mem_settle_resolved_iff, and_iff_right ht]

/-- Types on top of each other, two that are parents of each other, and one whose parent is not
stored. -/
def stackedTypes : TypeCatalog where
  entries :=
    [{ id := ⟨"file", "base"⟩ },
      { id := ⟨"file", "album"⟩, parent := some ⟨"file", "folder"⟩, standing := .deferred },
      { id := ⟨"file", "folder"⟩, parent := some ⟨"file", "base"⟩, standing := .deferred },
      { id := ⟨"file", "note"⟩, parent := some ⟨"file", "base"⟩, standing := .deferred },
      { id := ⟨"loop", "left"⟩, parent := some ⟨"loop", "right"⟩, standing := .deferred },
      { id := ⟨"loop", "right"⟩, parent := some ⟨"loop", "left"⟩, standing := .deferred },
      { id := ⟨"file", "orphan"⟩, parent := some ⟨"file", "gone"⟩, standing := .deferred }]
  nodup := by decide

/-- Candidates below others, one in the loop, one without a parent that is stored, and an unknown
one. -/
def stackedCandidates : List TypeId :=
  [⟨"file", "album"⟩, ⟨"loop", "left"⟩, ⟨"file", "note"⟩, ⟨"file", "folder"⟩, ⟨"file", "orphan"⟩,
    ⟨"file", "gone"⟩]

/-- One order takes a pass more than the other, and the types are resolved in another order. -/
theorem candidates_in_any_order_stacked :
    (∀ t ∈ stackedCandidates, stackedTypes.isResolvedAt t = false) ∧
      (settle stackedTypes stackedCandidates).types =
        (settle stackedTypes stackedCandidates.reverse).types ∧
      (settle stackedTypes stackedCandidates).resolved =
        [⟨"file", "note"⟩, ⟨"file", "folder"⟩, ⟨"file", "album"⟩] ∧
      (settle stackedTypes stackedCandidates.reverse).resolved =
        [⟨"file", "folder"⟩, ⟨"file", "note"⟩, ⟨"file", "album"⟩] ∧
      stackedTypes.Resolvable stackedCandidates ⟨"file", "album"⟩ := by
  have hu : ∀ t ∈ stackedCandidates, stackedTypes.isResolvedAt t = false := by decide
  have hresolved : (settle stackedTypes stackedCandidates).resolved =
      [⟨"file", "note"⟩, ⟨"file", "folder"⟩, ⟨"file", "album"⟩] := by decide +kernel
  obtain ⟨htypes, -, -, hwhich, -⟩ :=
    candidates_in_any_order stackedTypes (List.reverse_perm stackedCandidates).symm hu
  have halbum := (hwhich ⟨"file", "album"⟩ (by decide)).1
  rw [hresolved] at halbum
  exact ⟨hu, htypes, hresolved, by decide +kernel, halbum.1 (by decide)⟩

end Taxonomy
