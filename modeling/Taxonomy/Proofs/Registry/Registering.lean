import Taxonomy.Registry.Contents
import Taxonomy.Proofs.Inheritance.Growth

/-!
# Registering a type

What a registration does to the stored types: the new one goes to the end, and the members of a
cycle that it closes are marked.

* `cyclic_of_mem_closedCycle`: the marked types are on a chain that comes back.
* `resolved_withNew`: a resolved type is not among them, and its chain is as before.
* `coherent_register`: coherent standings stay coherent.
-/

namespace Taxonomy

open TypeCatalog

variable {types : TypeCatalog} {c : Contents} {d : Declaration}

theorem declaration?_insert (types : TypeCatalog) (a : TypeDefinition) (t : TypeId) :
    TypeCatalog.declaration? (types.insert a) t =
      if a.id = t then some a.toDeclaration else types.declaration? t := by
  rw [TypeCatalog.declaration?, Catalog.find?_insert]
  split <;> rfl

theorem markCyclic_eq (types : TypeCatalog) (members : List TypeId) :
    Contents.markCyclic types members =
      types.restand fun a => if members.contains a.id then .cyclic else a.standing := by
  refine Catalog.map_congr _ _ fun a _ => ?_
  by_cases h : members.contains a.id = true
  · simp only [h, if_true]
  · simp only [h, if_false, Bool.false_eq_true]

/-- The types with a new one, before the members of a cycle are marked. -/
def withNew (types : TypeCatalog) (d : Declaration) : TypeCatalog :=
  types.insert (resolve d.define types)

theorem declaration?_withNew (types : TypeCatalog) (d : Declaration) (t : TypeId) :
    (withNew types d).declaration? t = if d.id = t then some d else types.declaration? t :=
  declaration?_insert types _ t

theorem declaration?_withNew_of_ne {t : TypeId} (h : t ≠ d.id) :
    (withNew types d).declaration? t = types.declaration? t := by
  rw [declaration?_withNew, if_neg (Ne.symm h)]

theorem known_withNew (types : TypeCatalog) (d : Declaration) : Known (withNew types d) d :=
  ⟨d, by rw [declaration?_withNew, if_pos rfl], rfl⟩

/-- **The members of a closed cycle** come back to themselves among the stored types. -/
theorem cyclic_of_mem_closedCycle {a : TypeDefinition} (ha : a ∈ (withNew c.types d).entries)
    (hm : a.id ∈ c.closedCycle d) :
    settledStanding (withNew c.types d) a.toDeclaration = .cyclic := by
  have hend : (withNew c.types d).ending d = c.types.ending d :=
    ending_congr fun q hq => declaration?_withNew_of_ne hq
  rw [Contents.closedCycle] at hm
  split at hm
  · next members he =>
    have hl := (loops_of_cycle (known_withNew _ _) (hend.trans he)).2 a.id hm
    exact standingWhere_eq_cyclic_iff.2 (ending_cycle_of_loops (known_of_mem ha) hl)
  · exact absurd hm List.not_mem_nil

section Register

variable (hnew : c.types.find? d.id = none)

include hnew

theorem entries_withNew :
    (withNew c.types d).entries = c.types.entries ++ [resolve d.define c.types] :=
  Catalog.entries_insert_new hnew

theorem declaration?_withNew_of_some (t : TypeId) (a : Declaration)
    (h : c.types.declaration? t = some a) : (withNew c.types d).declaration? t = some a := by
  rw [declaration?_withNew_of_ne, h]
  rintro rfl
  rw [declaration?_eq_none_iff.2 hnew] at h
  cases h

/-- Who was resolved has the chain of before, and is not on a cycle that the new type closes. -/
theorem resolved_withNew (hc : Coherent c.types) {a : TypeDefinition} (ha : a ∈ c.types.entries)
    (hr : a.isResolved = true) :
    (withNew c.types d).chain a.toDeclaration = c.types.chain a.toDeclaration ∧
      a.id ∉ c.closedCycle d := by
  have he := hc.complete_of_resolved ha hr
  obtain ⟨he', hc'⟩ := complete_mono (declaration?_withNew_of_some hnew) (known_of_mem ha) he
  refine ⟨hc', fun hm => ?_⟩
  have ha' : a ∈ (withNew c.types d).entries := by
    rw [entries_withNew hnew]
    exact List.mem_append_left _ ha
  have hr' := isResolved_settledStanding_iff.2 he'
  rw [cyclic_of_mem_closedCycle ha' hm] at hr'
  cases hr'

/-- Who was resolved still is. -/
theorem isResolvedAt_register (hc : Coherent c.types) {t : TypeId}
    (ht : c.types.isResolvedAt t = true) :
    TypeCatalog.isResolvedAt
      (Contents.markCyclic (withNew c.types d) (c.closedCycle d)) t = true := by
  cases hf : c.types.find? t with
  | none => rw [isResolvedAt, hf] at ht; cases ht
  | some a =>
    obtain ⟨ha, rfl⟩ := Catalog.find?_eq_some_iff.1 hf
    rw [isResolvedAt_of_mem ha] at ht
    have hm := (resolved_withNew hnew hc ha ht).2
    have hft : (withNew c.types d).find? a.id = some a := by
      refine Catalog.find?_of_mem ?_
      rw [entries_withNew hnew]
      exact List.mem_append_left _ ha
    rw [markCyclic_eq, isResolvedAt_restand, hft, Option.any_some, if_neg (by simpa using hm)]
    exact ht

/-- **A new type keeps standings coherent.** -/
theorem coherent_register (hc : Coherent c.types) :
    Coherent (Contents.markCyclic (withNew c.types d) (c.closedCycle d)) := by
  have hkeep := fun t => isResolvedAt_register (t := t) hnew hc
  have hnewStanding : (resolve d.define c.types).standing =
      standingWhere c.types.isResolvedAt c.types d := standing_eq d c.types
  rw [markCyclic_eq] at hkeep ⊢
  constructor
  · intro a ha
    obtain ⟨b, hb, rfl⟩ := mem_restand.1 ha
    simp only [settledStanding_restand, List.contains_iff_mem]
    -- a member of the closed cycle, a type of before, or the new one
    by_cases hm : b.id ∈ c.closedCycle d
    · exact .inl (by rw [if_pos hm, cyclic_of_mem_closedCycle hb hm])
    rw [if_neg hm]
    rw [entries_withNew hnew] at hb
    rcases List.mem_append.1 hb with hb | hb
    · rcases hc.standing b hb with hs | hs
      · by_cases hd : settledStanding c.types b.toDeclaration = .deferred
        · exact .inr ⟨hs.trans hd, parent_ne_none_of_deferred hd⟩
        · exact .inl (hs.trans
            (settledStanding_mono (declaration?_withNew_of_some hnew) (known_of_mem hb) hd).symm)
      · exact .inr hs
    · obtain rfl := List.mem_singleton.1 hb
      have hsame : settledStanding (withNew c.types d) d = settledStanding c.types d :=
        settledStanding_congr fun q hq => declaration?_withNew_of_ne hq
      have hor : standingWhere c.types.isResolvedAt c.types d = settledStanding c.types d ∨
          standingWhere c.types.isResolvedAt c.types d = .deferred := standingWhere_eq_settled_or
      rcases hor with hd | hd
      · exact .inl ((hnewStanding.trans hd).trans hsame.symm)
      · exact .inr ⟨hnewStanding.trans hd, parent_ne_none_of_deferred hd⟩
  · intro a ha hr x hx
    obtain ⟨b, hb, rfl⟩ := mem_restand.1 ha
    refine hkeep x.id ?_
    rw [chain_restand] at hx
    have hb' : b.isResolved = true := by
      by_cases hm : (c.closedCycle d).contains b.id = true
      · simp only [TypeDefinition.isResolved, hm, if_true] at hr
        cases hr
      · simpa only [TypeDefinition.isResolved, hm, if_false, Bool.false_eq_true] using hr
    rw [entries_withNew hnew] at hb
    rcases List.mem_append.1 hb with hb | hb
    · rw [(resolved_withNew hnew hc hb hb').1] at hx
      exact hc.above b hb hb' x hx
    · obtain rfl := List.mem_singleton.1 hb
      have hchain : (withNew c.types d).chain d = c.types.chain d :=
        chain_congr fun q hq => declaration?_withNew_of_ne hq
      rw [TypeDefinition.isResolved, hnewStanding, isResolved_standingWhere_iff] at hb'
      exact hb'.2 x (hchain ▸ hx)

end Register

end Taxonomy
