import Taxonomy.Proofs.Inheritance.Circles
import Taxonomy.Proofs.Registry.History

/-!
# Loops are marked

A registration marks the circle of parents that it closes, and looks at no other type. This is
enough: in whatever order types come and go, each type that comes back to itself is marked.

* `Marked`: every type that comes back to itself is cyclic.
* `mem_closedCycle_iff`: the types that a registration marks.
* `path_before_new`: paths that never lead to the new type were there before it.
* `step_marked`, `reached_marked`: one step, and a whole run.
-/

namespace Taxonomy

open Relation TypeCatalog

/-- **Every type that comes back to itself is cyclic.** -/
def Marked (types : TypeCatalog) : Prop :=
  ∀ a ∈ types.entries, TransGen types.ChildOf a.id a.id → a.standing = .cyclic

variable {types types' : TypeCatalog} {c c' : Contents} {d : Declaration} {t u : TypeId}
  {e : Extension} {ev : Event} {es : List Event} {r : Registry}

/-! ## The same parents -/

theorem childOf_restand (f : TypeDefinition → Standing) :
    (types.restand f).ChildOf = types.ChildOf := by
  funext t p
  simp only [TypeCatalog.ChildOf, declaration?_restand]

theorem Revises.childOf_eq {f : Declaration → Declaration} (h : Revises f types types') :
    types'.ChildOf = types.ChildOf := by
  funext t p
  simp only [TypeCatalog.ChildOf, h.declaration?, Option.map_eq_some_iff]
  refine propext ⟨?_, ?_⟩
  · rintro ⟨-, ⟨a, ha, rfl⟩, hp⟩
    exact ⟨a, ha, by rw [← h.parent, hp]⟩
  · rintro ⟨a, ha, hp⟩
    exact ⟨f a, ⟨a, ha, rfl⟩, by rw [h.parent, hp]⟩

/-- The walk of a type that comes back to itself ends in a cycle. -/
theorem ending_cycle_of_mem {a : TypeDefinition} (ha : a ∈ types.entries)
    (h : TransGen types.ChildOf a.id a.id) :
    ∃ members, types.ending a.toDeclaration = .cycle members :=
  (ending_cycle_iff (declaration?_of_mem ha)).2 ⟨a.id, .refl, h⟩

/-! ## A new type -/

/-- **The types that a registration marks** are those on its way that come back to themselves. -/
theorem mem_closedCycle_iff (c : Contents) (d : Declaration) (u : TypeId) :
    u ∈ c.closedCycle d ↔ ReflTransGen (withNew c.types d).ChildOf d.id u ∧
      TransGen (withNew c.types d).ChildOf u u := by
  have hd : (withNew c.types d).declaration? d.id = some d := by
    rw [declaration?_withNew, if_pos rfl]
  have hend : (withNew c.types d).ending d = c.types.ending d :=
    ending_congr fun q hq => declaration?_withNew_of_ne hq
  have hwalk : (walk d c.types.entries).ending = c.types.ending d := rfl
  rw [Contents.closedCycle, hwalk]
  -- a walk that ends elsewhere has no loop on its way
  have hnone (hne : ∀ members, c.types.ending d ≠ .cycle members) :
      u ∈ ([] : List TypeId) ↔ ReflTransGen (withNew c.types d).ChildOf d.id u ∧
        TransGen (withNew c.types d).ChildOf u u := by
    refine ⟨fun h => absurd h List.not_mem_nil, fun h => ?_⟩
    obtain ⟨members, he⟩ := (ending_cycle_iff hd).2 ⟨u, h⟩
    exact absurd (hend.symm.trans he) (hne members)
  cases he : c.types.ending d with
  | cycle members => exact mem_cycle_iff hd (hend.trans he)
  | complete => exact hnone (by simp [he])
  | missing m => exact hnone (by simp [he])

/-- **A path that never leads to the new type** was there before. -/
theorem path_before_new (h : TransGen (withNew types d).ChildOf t u)
    (hn : ¬ ReflTransGen (withNew types d).ChildOf t d.id) : TransGen types.ChildOf t u := by
  -- a step from another type than the new one
  have hstep {m p : TypeId} (hm : ReflTransGen (withNew types d).ChildOf t m)
      (hp : (withNew types d).ChildOf m p) : types.ChildOf m p := by
    obtain ⟨a, ha, hpar⟩ := hp
    have hne : m ≠ d.id := fun e => hn (e ▸ hm)
    rw [declaration?_withNew_of_ne hne] at ha
    exact ⟨a, ha, hpar⟩
  induction h with
  | single hp => exact .single (hstep .refl hp)
  | tail hm hp ih => exact .tail ih (hstep hm.to_reflTransGen hp)

theorem marked_register (hnew : c.types.find? d.id = none) (h : Marked c.types) :
    Marked (Contents.markCyclic (withNew c.types d) (c.closedCycle d)) := by
  intro x hx hloop
  rw [markCyclic_eq] at hx hloop
  obtain ⟨b, hb, rfl⟩ := mem_restand.1 hx
  simp only [childOf_restand, List.contains_iff_mem] at hloop ⊢
  by_cases hm : b.id ∈ c.closedCycle d
  · rw [if_pos hm]
  rw [if_neg hm]
  -- a loop that leads to the new type goes through it, and would have been closed by it
  have hfar : ¬ ReflTransGen (withNew c.types d).ChildOf b.id d.id := by
    intro hpath
    have hback := trans_back (rightUnique_childOf _) hloop hpath
    exact hm ((mem_closedCycle_iff c d b.id).2 ⟨hback.to_reflTransGen, hloop⟩)
  rw [entries_withNew hnew] at hb
  rcases List.mem_append.1 hb with hb | hb
  · exact h b hb (path_before_new hloop hfar)
  · obtain rfl := List.mem_singleton.1 hb
    exact absurd .refl hfar

/-! ## Other changes -/

/-- Types that stand as their parents decide are marked. -/
theorem IsSettled.marked (h : IsSettled types) : Marked types := by
  intro a ha hloop
  obtain ⟨members, he⟩ := ending_cycle_of_mem ha hloop
  rw [h a ha]
  exact standingWhere_of_cycle he

/-- Types that come back to themselves are not resolved, so that a commit leaves them alone. -/
theorem marked_extended (h : Marked types) : Marked (extended types t e) := by
  intro x hx hloop
  obtain ⟨a, ha, rfl⟩ := mem_restand.1 hx
  obtain ⟨b, hb, rfl⟩ := mem_extendAt.1 ha
  rw [extended, childOf_restand, (revises_extendAt types t e).childOf_eq] at hloop
  simp only [extendIf_toDeclaration, overlayIf_id] at hloop
  have hb' : (extendIf t e b).standing = .cyclic := by
    rw [extendIf_standing]
    exact h b hb hloop
  have hu : (extendIf t e b).isResolved = false := by rw [TypeDefinition.isResolved, hb']; rfl
  simp only [hu, Bool.false_eq_true, if_false]
  exact hb'

theorem marked_rebuilt (held : TypeId → Bool) : Marked (rebuilt types held) := by
  intro x hx hloop
  obtain ⟨a, ha, rfl⟩ := mem_restand.1 hx
  rw [rebuilt, childOf_restand] at hloop
  obtain ⟨members, he⟩ := ending_cycle_of_mem ha hloop
  have hholding : holding types a.toDeclaration = .cyclic := by rw [holding_eq, he]
  have hafter : standingAfter types (types.keys.filter (!held ·)) a.toDeclaration = .cyclic :=
    standingWhere_of_cycle he
  simp only [hholding, hafter, ite_self]

/-! ## Every step keeps loops marked -/

/-- **A step keeps loops marked.** -/
theorem step_marked (hc : c.Sound) (h : Marked c.types) (hs : Step c ev c') : Marked c'.types := by
  cases hs with
  | registered hok =>
    obtain ⟨hnew, ha⟩ := register_ok hok
    rw [ha]
    exact marked_register (hc.find?_eq_none_iff.2 hnew) h
  | extended hok =>
    rw [(commit_ok hc.coherent hok).2]
    split
    · exact h
    · exact marked_extended h
  | settled =>
    rw [after_resolveDeferred hc.coherent]
    exact (isSettled_restand c.types).marked
  | constrained hok => rwa [(addConstraint_ok hok).1]
  | released scope =>
    rcases release_cases c scope with ⟨-, ha⟩ | ⟨-, ha⟩
    · rwa [ha]
    · rw [ha]
      exact marked_rebuilt c.isHeld
  | cleared => exact fun a ha => absurd ha List.not_mem_nil

/-- **Loops are marked after any series of events.** -/
theorem reached_marked (h : Reached es c) : Marked c.types := by
  induction h with
  | start => exact fun a ha => absurd ha List.not_mem_nil
  | next hr hs ih => exact step_marked (reached_sound hr) ih hs

/-- **In every reachable state loops are marked.** -/
theorem Registry.Reachable.marked (h : r.Reachable) : Marked r.snapshot.contents.types := by
  obtain ⟨name, ops, rfl⟩ := h
  exact reached_marked (reached_run name ops)

end Taxonomy
