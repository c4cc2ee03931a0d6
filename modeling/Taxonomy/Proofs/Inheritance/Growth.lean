import Taxonomy.Proofs.Inheritance.Coherence

/-!
# New types and new rules

How standings change when a type is added, and when one gets further rules.

* `settledStanding_mono`: a new type changes nothing for types whose chain was complete or came
  back.
* `complete_transfer`: a complete chain passes the same ids wherever those on it have the same
  parents.
* `Revises`: the same types with the same parents, and possibly other rules.
* `Revises.ending_complete`, `Revises.ending_cycle`, `Revises.ending_missing`: walks end as before.
-/

namespace Taxonomy

open TypeCatalog

variable {types types' : TypeCatalog} {d : Declaration}

/-- A walk sees of the type it starts from its id and its parent. -/
theorem walk_start {d' : Declaration} (hid : d.id = d'.id) (hpar : d.parent = d'.parent) :
    types.chain d = types.chain d' ∧ types.ending d = types.ending d' := by
  simp only [TypeCatalog.chain, TypeCatalog.ending, walk, hid, hpar, and_self]

theorem settledStanding_start {d' : Declaration} (hid : d.id = d'.id)
    (hpar : d.parent = d'.parent) :
    settledStanding types d = settledStanding types d' := by
  obtain ⟨hc, he⟩ : types.chain d = types.chain d' ∧ types.ending d = types.ending d' :=
    walk_start hid hpar
  simp only [settledStanding, standingWhere, hc, he]

/-- A climb stays one when types are added. -/
theorem Climbs.mono
    (hsub : ∀ t a, types.declaration? t = some a → types'.declaration? t = some a)
    {p q : Option TypeId} {as : List Declaration} (h : Climbs types p as q) :
    Climbs types' p as q := by
  induction as generalizing p with
  | nil => exact h
  | cons a as ih => exact ⟨h.1, hsub _ _ h.2.1, ih h.2.2⟩

/-- A climb passes the same ids among other types, where those that it passes have the same
parents. -/
theorem Climbs.transfer {p q : Option TypeId} {as : List Declaration} (h : Climbs types p as q)
    (hsame : ∀ a ∈ as, ∃ b, types'.declaration? a.id = some b ∧ b.parent = a.parent) :
    ∃ bs, bs.map (·.id) = as.map (·.id) ∧ Climbs types' p bs q := by
  induction as generalizing p with
  | nil => exact ⟨[], rfl, h⟩
  | cons a as ih =>
    obtain ⟨hp, -, h⟩ := h
    obtain ⟨b, hb, hpar⟩ := hsame a List.mem_cons_self
    have hid := id_of_declaration? hb
    obtain ⟨bs, hbs, hc⟩ := ih h fun x hx => hsame x (List.mem_cons_of_mem _ hx)
    refine ⟨b :: bs, by rw [List.map_cons, List.map_cons, hid, hbs], ?_, ?_, ?_⟩
    · rw [hp, hid]
    · rw [hid, hb]
    · rwa [hpar]

theorem Loops.mono
    (hsub : ∀ t a, types.declaration? t = some a → types'.declaration? t = some a)
    {t : TypeId} (h : Loops types t) : Loops types' t := by
  obtain ⟨loop, hne, hl⟩ := h
  exact ⟨loop, hne, hl.mono hsub⟩

theorem Known.mono (hsub : ∀ t a, types.declaration? t = some a → types'.declaration? t = some a)
    (hd : Known types d) : Known types' d := by
  obtain ⟨a, ha, hpar⟩ := hd
  exact ⟨a, hsub _ _ ha, hpar⟩

/-- A complete chain stays as it is. -/
theorem complete_mono (hsub : ∀ t a, types.declaration? t = some a → types'.declaration? t = some a)
    (hd : Known types d) (he : types.ending d = .complete) :
    types'.ending d = .complete ∧ types'.chain d = types.chain d := by
  have hr := walk_reports types d
  rw [he] at hr
  exact ending_complete_of_climbs (hd.mono hsub) (Climbs.mono hsub hr)

/-- **A complete chain passes the same ids among other types**, where those on it have the same
parents. -/
theorem complete_transfer {d' : Declaration} (hd' : Known types' d') (hpar : d'.parent = d.parent)
    (he : types.ending d = .complete)
    (hsame : ∀ a ∈ types.chain d, ∃ b, types'.declaration? a.id = some b ∧ b.parent = a.parent) :
    types'.ending d' = .complete ∧
      (types'.chain d').map (·.id) = (types.chain d).map (·.id) := by
  have hr := walk_reports types d
  rw [he] at hr
  obtain ⟨bs, hbs, hc⟩ := Climbs.transfer hr hsame
  rw [← hpar] at hc
  obtain ⟨he', hch⟩ := ending_complete_of_climbs hd' hc
  exact ⟨he', by rw [hch, hbs]⟩

/-- **A new type changes nothing** for a type whose chain was complete or came back. -/
theorem settledStanding_mono
    (hsub : ∀ t a, types.declaration? t = some a → types'.declaration? t = some a)
    (hd : Known types d) (h : settledStanding types d ≠ .deferred) :
    settledStanding types' d = settledStanding types d := by
  cases he : types.ending d with
  | missing t => exact absurd (settledStanding_eq_deferred_iff.2 ⟨t, he⟩) h
  | complete =>
    obtain ⟨he', hc'⟩ := complete_mono hsub hd he
    simp only [settledStanding, standingWhere, he, he', hc']
  | cycle members =>
    obtain ⟨⟨t, hc, hl⟩, -⟩ := loops_of_cycle hd he
    obtain ⟨members', he'⟩ := ending_cycle_of_climbs (hc.mono hsub) (hl.mono hsub)
    simp only [settledStanding, standingWhere, he, he']

/-- **The same types with the same parents**, and possibly other rules. -/
structure Revises (f : Declaration → Declaration) (types types' : TypeCatalog) : Prop where
  id : ∀ a, (f a).id = a.id
  parent : ∀ a, (f a).parent = a.parent
  declaration? : ∀ t, types'.declaration? t = (types.declaration? t).map f

namespace Revises

variable {f : Declaration → Declaration} (h : Revises f types types')

include h

/-- A climb passes the same types with their new rules. -/
theorem climbs {p q : Option TypeId} {as : List Declaration} (hc : Climbs types p as q) :
    Climbs types' p (as.map f) q := by
  induction as generalizing p with
  | nil => exact hc
  | cons a as ih =>
    obtain ⟨hp, ha, hc⟩ := hc
    refine ⟨by rw [h.id, hp], ?_, by rw [h.parent]; exact ih hc⟩
    rw [h.id, h.declaration?, ha, Option.map_some]

theorem known (hd : Known types d) : Known types' d := by
  obtain ⟨a, ha, hpar⟩ := hd
  exact ⟨f a, by rw [h.declaration?, ha, Option.map_some], by rw [h.parent, hpar]⟩

theorem ending_complete (hd : Known types d) (he : types.ending d = .complete) :
    types'.ending d = .complete ∧ types'.chain d = (types.chain d).map f := by
  have hr := walk_reports types d
  rw [he] at hr
  exact ending_complete_of_climbs (h.known hd) (h.climbs hr)

theorem ending_missing (hd : Known types d) {t : TypeId} (he : types.ending d = .missing t) :
    types'.ending d = .missing t := by
  have hr := walk_reports types d
  rw [he] at hr
  refine ending_missing_of_climbs (h.known hd) (h.climbs hr.1) ?_
  rw [h.declaration?, hr.2, Option.map_none]

theorem ending_cycle (hd : Known types d) {members : List TypeId}
    (he : types.ending d = .cycle members) : ∃ members', types'.ending d = .cycle members' := by
  obtain ⟨⟨t, hc, loop, hne, hl⟩, -⟩ := loops_of_cycle hd he
  exact ending_cycle_of_climbs (h.climbs hc) ⟨loop.map f, by simpa using hne, h.climbs hl⟩

end Revises

end Taxonomy
