import Taxonomy.Proofs.Inheritance.Walk

/-!
# Declared parents as a relation

The stored types with their parents form a graph in which every type has at most
one edge. Where a walk ends is a property of this graph.

* `TypeCatalog.ChildOf`: the edges.
* `climbs_iff_path`, `loops_iff_path`: climbs are paths, loops are closed paths.
* `ending_complete_iff`, `ending_cycle_iff`, `ending_missing_iff`: a walk ends at
  the top, in a loop or before an unknown id exactly if some path leads there.
* `mem_chain_iff`: a complete chain passes the types that a path leads up to.
-/

namespace Taxonomy

open Relation

/-- **A type is stored with this parent.** -/
def TypeCatalog.ChildOf (types : TypeCatalog) (t p : TypeId) : Prop :=
  ∃ a, types.declaration? t = some a ∧ a.parent = some p

open TypeCatalog

variable {types : TypeCatalog} {t u : TypeId} {d : Declaration} {as : List Declaration}

theorem climbs_to_top (h : Climbs types none as (some u)) : False := by
  cases as with
  | nil => cases h
  | cons a as => cases h.1

theorem climbs_iff_path :
    (∃ as, Climbs types (some t) as (some u)) ↔ ReflTransGen types.ChildOf t u := by
  constructor
  · rintro ⟨as, h⟩
    induction as generalizing t with
    | nil =>
      obtain rfl := Option.some.inj h
      exact .refl
    | cons a as ih =>
      obtain ⟨hid, ha, h⟩ := h
      obtain rfl := Option.some.inj hid
      cases hp : a.parent with
      | none => rw [hp] at h; exact (climbs_to_top h).elim
      | some p => rw [hp] at h; exact .head ⟨a, ha, hp⟩ (ih h)
  · intro h
    induction h using ReflTransGen.head_induction_on with
    | refl => exact ⟨[], rfl⟩
    | head hc _ ih =>
      obtain ⟨a, ha, hp⟩ := hc
      obtain ⟨as, has⟩ := ih
      have hid := id_of_declaration? ha
      exact ⟨a :: as, by rw [hid], by rw [hid, ha], by rwa [hp]⟩

theorem loops_iff_path : Loops types t ↔ TransGen types.ChildOf t t := by
  rw [TransGen.head'_iff]
  constructor
  · rintro ⟨loop, hne, h⟩
    cases loop with
    | nil => exact absurd rfl hne
    | cons a as =>
      obtain ⟨hid, ha, h⟩ := h
      obtain rfl := Option.some.inj hid
      cases hp : a.parent with
      | none => rw [hp] at h; exact (climbs_to_top h).elim
      | some p => rw [hp] at h; exact ⟨p, ⟨a, ha, hp⟩, climbs_iff_path.1 ⟨as, h⟩⟩
  · rintro ⟨p, ⟨a, ha, hp⟩, h⟩
    obtain ⟨as, has⟩ := climbs_iff_path.2 h
    have hid := id_of_declaration? ha
    exact ⟨a :: as, by simp, by rw [hid], by rw [hid, ha], by rwa [hp]⟩

section Ending

variable (hd : types.declaration? t = some d)

include hd

/-- A path from a stored type, as a climb from its parent. -/
theorem climbs_of_path {q : Option TypeId} (hne : as ≠ []) (h : Climbs types (some t) as q) :
    Climbs types d.parent as.tail q := by
  cases as with
  | nil => exact absurd rfl hne
  | cons a as =>
    obtain ⟨hid, ha, h⟩ := h
    obtain rfl := Option.some.inj hid
    rw [hd] at ha
    obtain rfl := Option.some.inj ha
    exact h

/-- A climb from the parent of a stored type, as a path of at least one step from the type. -/
theorem trans_of_climbs (h : Climbs types d.parent as (some u)) :
    TransGen types.ChildOf t u := by
  cases hp : d.parent with
  | none => rw [hp] at h; exact (climbs_to_top h).elim
  | some p =>
    rw [hp] at h
    exact .head' ⟨d, hd, hp⟩ (climbs_iff_path.1 ⟨as, h⟩)

theorem path_of_climbs (h : Climbs types d.parent as (some u)) :
    ReflTransGen types.ChildOf t u :=
  (trans_of_climbs hd h).to_reflTransGen

/-- **A walk is complete exactly if a path leads to a type without a parent.** -/
theorem ending_complete_iff :
    types.ending d = .complete ↔
      ∃ u a, ReflTransGen types.ChildOf t u ∧ types.declaration? u = some a ∧ a.parent = none := by
  constructor
  · intro he
    have hr := walk_reports types d
    rw [he] at hr
    rcases List.eq_nil_or_concat (types.chain d) with hc | ⟨as, a, hc⟩
    · rw [hc] at hr
      exact ⟨t, d, .refl, hd, hr⟩
    · rw [hc, List.concat_eq_append] at hr
      obtain ⟨m, has, rfl, ha, htop⟩ := climbs_append.1 hr
      exact ⟨a.id, a, path_of_climbs hd has, ha, htop⟩
  · rintro ⟨u, a, hpath, ha, htop⟩
    obtain ⟨as, has⟩ := climbs_iff_path.2 hpath
    have hid := id_of_declaration? ha
    have hall : Climbs types (some t) (as ++ [a]) none :=
      climbs_append.2 ⟨some u, has, by rw [hid], by rw [hid, ha], htop⟩
    exact (ending_complete_of_climbs (known_of_declaration? hd)
      (climbs_of_path hd (by simp) hall)).1

/-- **A walk comes back exactly if a path leads into a loop.** -/
theorem ending_cycle_iff :
    (∃ members, types.ending d = .cycle members) ↔
      ∃ u, ReflTransGen types.ChildOf t u ∧ TransGen types.ChildOf u u := by
  constructor
  · rintro ⟨members, he⟩
    obtain ⟨⟨u, hc, hl⟩, -⟩ := loops_of_cycle (known_of_declaration? hd) he
    exact ⟨u, path_of_climbs hd hc, loops_iff_path.1 hl⟩
  · rintro ⟨u, hpath, hl⟩
    obtain ⟨as, has⟩ := climbs_iff_path.2 hpath
    have hl' := loops_iff_path.2 hl
    by_cases hne : as = []
    · obtain rfl : t = u := Option.some.inj (by rw [hne] at has; exact has)
      have hid := id_of_declaration? hd
      exact ending_cycle_of_loops (known_of_declaration? hd) (by rwa [hid])
    · exact ending_cycle_of_climbs (climbs_of_path hd hne has) hl'

/-- **A walk is broken off exactly if a path leads to an unknown id.** -/
theorem ending_missing_iff :
    (∃ m, types.ending d = .missing m) ↔
      ∃ u, ReflTransGen types.ChildOf t u ∧ types.declaration? u = none := by
  constructor
  · rintro ⟨m, he⟩
    have hr := walk_reports types d
    rw [he] at hr
    exact ⟨m, path_of_climbs hd hr.1, hr.2⟩
  · rintro ⟨u, hpath, hu⟩
    obtain ⟨as, has⟩ := climbs_iff_path.2 hpath
    have hne : as ≠ [] := by
      rintro rfl
      obtain rfl : t = u := Option.some.inj has
      rw [hd] at hu
      cases hu
    exact ⟨u, ending_missing_of_climbs (known_of_declaration? hd) (climbs_of_path hd hne has) hu⟩

/-- **The types on a complete chain are those that a path leads up to.** -/
theorem mem_chain_iff (he : types.ending d = .complete) :
    (∃ b ∈ types.chain d, b.id = u) ↔ TransGen types.ChildOf t u := by
  have hr := walk_reports types d
  rw [he] at hr
  constructor
  · rintro ⟨b, hb, rfl⟩
    obtain ⟨xs, ys, hs⟩ := List.append_of_mem hb
    rw [hs] at hr
    obtain ⟨p, hxs, rfl, -⟩ := climbs_append.1 hr
    exact trans_of_climbs hd hxs
  · intro h
    obtain ⟨p, ⟨a, ha, hp⟩, hpath⟩ := TransGen.head'_iff.1 h
    rw [hd] at ha
    obtain rfl := Option.some.inj ha
    obtain ⟨as, has⟩ := climbs_iff_path.2 hpath
    rw [← hp] at has
    -- the chain goes on above the type, since that is not the top
    obtain ⟨cs, hc, hcs⟩ := Climbs.split hr ends_top has
    cases cs with
    | nil => cases hcs
    | cons c cs => exact ⟨c, by simp [hc], (Option.some.inj hcs.1).symm⟩

end Ending

end Taxonomy
