import Mathlib.Data.List.Chain
import Taxonomy.Proofs.Inheritance.Parents

/-!
# Circles of parents

Every type has at most one parent, so that a chain of parents that comes back has run into a circle
that it never leaves. A walk that ends in a cycle reports this circle, and all of it.

* `Circle`: members, each once, of which each leads to the next, and the last to the first.
* `trans_back`: where there is one way on, whatever is reached from a loop leads back to it.
* `circle_of_cycle`: the members of a cycle are a circle.
* `mem_cycle_iff`: they are all types on the way that come back to themselves.
-/

namespace Taxonomy

open Relation

section Relations

variable {α : Type _} {r : α → α → Prop} {ms : List α} {a b x y : α}

/-- **A circle of a relation**: members, each of them once, of which each leads to the next one and
the last one to the first. -/
structure Circle (r : α → α → Prop) (ms : List α) : Prop where
  ne_nil : ms ≠ []
  nodup : ms.Nodup
  chain : ms.IsChain r
  closes : ∀ a ∈ ms.getLast?, ∀ b ∈ ms.head?, r a b

/-- **What is reached from a loop leads back to it**, where there is one way on at most. -/
theorem trans_back (hr : Relator.RightUnique r) (ha : TransGen r a a) (hab : ReflTransGen r a b) :
    TransGen r b a := by
  induction hab with
  | refl => exact ha
  | tail _ hstep ih =>
    -- the way back begins with the step that was taken
    obtain ⟨x, hx, hback⟩ := TransGen.head'_iff.1 ih
    rw [hr hstep hx]
    exact TransGen.trans_right hback ha

/-- **Where the way ends, all that is on the way leads to the end**, if there is one way on at
most. -/
theorem path_to_end (hr : Relator.RightUnique r) (hb : ∀ y, ¬ r b y) (hab : ReflTransGen r a b)
    (hax : ReflTransGen r a x) : ReflTransGen r x b := by
  rcases ReflTransGen.total_of_right_unique hr hab hax with hbx | hxb
  · rw [(reflTransGen_iff_eq hb).1 hbx]
  · exact hxb

namespace Circle

variable (h : Circle r ms)

include h

/-- A step from a member leads to a member. -/
theorem mem_of_step (hr : Relator.RightUnique r) (hx : x ∈ ms) (hstep : r x y) : y ∈ ms := by
  obtain ⟨before, after, rfl⟩ := List.append_of_mem hx
  cases after with
  | nil =>
    obtain ⟨b, hb⟩ := Option.ne_none_iff_exists'.1 (mt List.head?_eq_none_iff.1 h.ne_nil)
    rw [hr hstep (h.closes x (by simp) b hb)]
    exact List.mem_of_head? hb
  | cons z after =>
    have hz : r x z := (List.isChain_append.1 h.chain).2.1.rel_head? rfl
    rw [hr hstep hz]
    simp

/-- **A circle is never left.** -/
theorem mem_of_path (hr : Relator.RightUnique r) (hx : x ∈ ms) (hpath : ReflTransGen r x y) :
    y ∈ ms := by
  induction hpath with
  | refl => exact hx
  | tail _ hstep ih => exact h.mem_of_step hr ih hstep

end Circle

end Relations

open TypeCatalog

variable {types : TypeCatalog} {t u : TypeId} {d : Declaration} {as : List Declaration}
  {members : List TypeId}

theorem rightUnique_childOf (types : TypeCatalog) : Relator.RightUnique types.ChildOf := by
  rintro t p q ⟨a, ha, hp⟩ ⟨b, hb, hq⟩
  rw [ha] at hb
  obtain rfl := Option.some.inj hb
  exact Option.some.inj (hp.symm.trans hq)

/-! ## The ids on a walk -/

/-- The ids on a walk differ from each other and from those before it. -/
theorem nodup_walkFrom {seen : List TypeId} {rest : List TypeDefinition} {p : Option TypeId}
    (hseen : seen.Nodup) : (seen ++ (walkFrom seen rest p).chain.map (·.id)).Nodup := by
  induction seen, rest, p using walkFrom.induct with
  | case1 seen rest => simpa using hseen
  | case2 seen rest p hp => simpa [walkFrom_back hp] using hseen
  | case3 seen rest p hp hf => simpa [walkFrom_unknown hp hf] using hseen
  | case4 seen rest p hp a hf ih =>
    have hid : a.id = p := by simpa using List.find?_some hf
    have hnext : (seen ++ [p]).Nodup := by
      rw [List.perm_append_comm.nodup_iff, List.singleton_append, List.nodup_cons]
      exact ⟨hp, hseen⟩
    have hrest := ih hnext
    rw [List.append_assoc, List.singleton_append] at hrest
    rwa [walkFrom_known hp hf, List.map_cons, hid]

/-- **No id is met twice** on a walk. -/
theorem nodup_walk (types : TypeCatalog) (d : Declaration) :
    (d.id :: (types.chain d).map (·.id)).Nodup := by
  have h : ([d.id] ++ (walk d types.entries).chain.map (·.id)).Nodup :=
    nodup_walkFrom (by simp)
  rwa [TypeCatalog.chain, List.map_map]

/-! ## Climbs as chains of ids -/

/-- A climb to an id begins with the first id that it passes. -/
theorem Climbs.head?_eq {p : Option TypeId} (h : Climbs types p as (some u)) :
    (as.map (·.id) ++ [u]).head? = p := by
  cases as with
  | nil => exact Eq.symm h
  | cons a as => exact h.1.symm

/-- **A climb is a chain of parents.** -/
theorem Climbs.isChain {p : Option TypeId} (h : Climbs types p as (some u)) :
    (as.map (·.id) ++ [u]).IsChain types.ChildOf := by
  induction as generalizing p with
  | nil => exact .singleton u
  | cons a as ih =>
    obtain ⟨-, ha, h⟩ := h
    rw [List.map_cons, List.cons_append, List.isChain_cons]
    refine ⟨fun q hq => ⟨a, ha, ?_⟩, ih h⟩
    rw [← h.head?_eq]
    exact hq

/-! ## The members of a cycle -/

/-- **The members of a cycle are a circle.** -/
theorem circle_of_cycle (hd : Known types d) (h : types.ending d = .cycle members) :
    Circle types.ChildOf members := by
  have hnodup : members.Nodup := by
    have hr := walk_reports types d
    rw [h] at hr
    obtain ⟨t, -, -, rfl⟩ := hr
    exact (nodup_walk types d).sublist (List.dropWhile_sublist _)
  obtain ⟨t, loop, -, hne, hloop, rfl⟩ := climbs_of_cycle hd h
  have hchain := List.isChain_append.1 hloop.isChain
  have hhead : (loop.map (·.id)).head? = some t := by
    obtain ⟨a, as, rfl⟩ := List.exists_cons_of_ne_nil hne
    exact hloop.head?_eq
  refine ⟨by simpa using hne, hnodup, hchain.1, fun a ha b hb => ?_⟩
  rw [hhead] at hb
  obtain rfl := Option.some.inj hb
  exact hchain.2.2 a ha t rfl

/-- **The members of a cycle are the types on the way that come back to themselves.** -/
theorem mem_cycle_iff (hd : types.declaration? t = some d)
    (h : types.ending d = .cycle members) :
    u ∈ members ↔ ReflTransGen types.ChildOf t u ∧ TransGen types.ChildOf u u := by
  have hr := rightUnique_childOf types
  have hcircle := circle_of_cycle (known_of_declaration? hd) h
  obtain ⟨e, loop, hc, hne, hloop, rfl⟩ := climbs_of_cycle (known_of_declaration? hd) h
  have hentry : ReflTransGen types.ChildOf t e := path_of_climbs hd hc
  constructor
  · intro hu
    obtain ⟨a, ha, rfl⟩ := List.mem_map.1 hu
    obtain ⟨xs, ys, rfl⟩ := List.append_of_mem ha
    obtain ⟨m, hxs, rfl, -⟩ := climbs_append.1 hloop
    exact ⟨hentry.trans (climbs_iff_path.1 ⟨xs, hxs⟩), loops_iff_path.1 (hloop.loops_of_mem ha)⟩
  · rintro ⟨htu, hu⟩
    have hmem : e ∈ loop.map (·.id) := by
      obtain ⟨a, as, rfl⟩ := List.exists_cons_of_ne_nil hne
      rw [Option.some.inj hloop.1]
      exact List.mem_cons_self
    -- one of the two is met after the other, and what loops is met again
    rcases ReflTransGen.total_of_right_unique hr hentry htu with heu | hue
    · exact hcircle.mem_of_path hr hmem heu
    · exact hcircle.mem_of_path hr hmem (trans_back hr hu hue).to_reflTransGen

end Taxonomy
