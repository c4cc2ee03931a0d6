import Taxonomy.Proofs.Inheritance.Standing

/-!
# Coherent standings

* `TypeCatalog.restand`: the same types with other standings; their walks are the same.
* `Coherent`: a type that is not deferred stands as its declared parents decide, and above a
  resolved type all types are resolved.
* `IsSettled`: every type stands as its declared parents decide.
* `Coherent.lineage_subset`: the lineage of an ancestor is part of that of its descendants.
* `Coherent.inherits`: what a resolved type has, it has from its parent as that is stored now.
-/

namespace Taxonomy

namespace TypeCatalog

variable (types : TypeCatalog)

/-- **The same types with other standings.** -/
def restand (f : TypeDefinition → Standing) : TypeCatalog :=
  types.map (fun a => { a with standing := f a }) fun _ => rfl

variable {types} {f g : TypeDefinition → Standing}

@[simp] theorem find?_restand (t : TypeId) :
    (types.restand f).find? t = (types.find? t).map fun a => { a with standing := f a } :=
  Catalog.find?_map _ _ _ _

theorem mem_restand {a : TypeDefinition} :
    a ∈ (types.restand f).entries ↔ ∃ b ∈ types.entries, { b with standing := f b } = a :=
  List.mem_map

@[simp] theorem keys_restand : (types.restand f).keys = types.keys :=
  Catalog.keys_map _ _ _

@[simp] theorem declaration?_restand (t : TypeId) :
    (types.restand f).declaration? t = types.declaration? t := by
  simp only [declaration?, find?_restand, Option.map_map]
  rfl

@[simp] theorem chain_restand (d : Declaration) : (types.restand f).chain d = types.chain d :=
  chain_congr fun t _ => declaration?_restand t

@[simp] theorem ending_restand (d : Declaration) : (types.restand f).ending d = types.ending d :=
  ending_congr fun t _ => declaration?_restand t

@[simp] theorem standingWhere_restand (ok : TypeId → Bool) (d : Declaration) :
    standingWhere ok (types.restand f) d = standingWhere ok types d := by
  simp only [standingWhere, chain_restand, ending_restand]

@[simp] theorem settledStanding_restand (d : Declaration) :
    settledStanding (types.restand f) d = settledStanding types d :=
  standingWhere_restand _ d

theorem isResolvedAt_restand (t : TypeId) :
    (types.restand f).isResolvedAt t = (types.find? t).any fun a => (f a).isResolved := by
  simp only [isResolvedAt, find?_restand, Option.any_map]
  rfl

theorem restand_restand :
    (types.restand f).restand g = types.restand fun a => g { a with standing := f a } :=
  Catalog.ext (by simp [restand, Function.comp_def])

theorem restand_congr (h : ∀ a ∈ types.entries, f a = g a) : types.restand f = types.restand g :=
  Catalog.map_congr _ _ fun a ha => by rw [h a ha]

theorem restand_self : types.restand (·.standing) = types :=
  Catalog.ext (by simp [restand])

theorem isResolvedAt_of_mem {a : TypeDefinition} (h : a ∈ types.entries) :
    types.isResolvedAt a.id = a.isResolved := by
  simp [isResolvedAt, Catalog.find?_of_mem h]

/-- Stored types with the same id are the same. -/
theorem eq_of_mem {a b : TypeDefinition} (ha : a ∈ types.entries) (hb : b ∈ types.entries)
    (h : a.id = b.id) : a = b := by
  have hf := Catalog.find?_of_mem ha
  rw [h, Catalog.find?_of_mem hb] at hf
  exact (Option.some.inj hf).symm

/-- A definition that goes to the place of the one with its id changes one standing. -/
theorem insert_eq_restand {a : TypeDefinition} {s : Standing} (ha : a ∈ types.entries) :
    types.insert { a with standing := s } =
      types.restand fun b => if b.id = a.id then s else b.standing := by
  have hf : types.find? { a with standing := s }.id = some a := Catalog.find?_of_mem ha
  rw [Catalog.insert_eq_map hf]
  refine Catalog.map_congr _ _ fun b hb => ?_
  by_cases h : b.id = a.id
  · obtain rfl := eq_of_mem hb ha h
    simp
  · simp [h]

theorem exists_mem_of_declaration? {t : TypeId} {d : Declaration}
    (h : types.declaration? t = some d) : ∃ a ∈ types.entries, a.toDeclaration = d := by
  obtain ⟨a, ha, hd⟩ := Option.map_eq_some_iff.1 h
  exact ⟨a, Catalog.mem_of_find? ha, hd⟩

end TypeCatalog

open TypeCatalog

variable {types : TypeCatalog} {a : TypeDefinition}

/-- **Every type that is not deferred stands as its declared parents decide**, and above a resolved
type all types are resolved. -/
structure Coherent (types : TypeCatalog) : Prop where
  standing : ∀ a ∈ types.entries, a.standing = settledStanding types a.toDeclaration ∨
    a.standing = .deferred ∧ a.parent ≠ none
  above : ∀ a ∈ types.entries, a.isResolved = true →
    ∀ b ∈ types.chain a.toDeclaration, types.isResolvedAt b.id = true

/-- **Every type stands as its declared parents decide.** -/
def IsSettled (types : TypeCatalog) : Prop :=
  ∀ a ∈ types.entries, a.standing = settledStanding types a.toDeclaration

theorem coherent_empty : Coherent .empty :=
  ⟨fun _ ha => by simp at ha, fun _ ha => by simp at ha⟩

/-- The types above a type on a complete chain are stored, and their chains are complete. -/
theorem exists_above {d : Declaration} (h : types.ending d = .complete) {b : Declaration}
    (hb : b ∈ types.chain d) :
    ∃ a ∈ types.entries, a.toDeclaration = b ∧ types.ending b = .complete ∧
      types.chain b ⊆ types.chain d := by
  obtain ⟨xs, ys, hs⟩ := List.append_of_mem hb
  obtain ⟨hf, he, hc⟩ := complete_above h hs
  obtain ⟨a, ha, rfl⟩ := exists_mem_of_declaration? hf
  refine ⟨a, ha, rfl, he, ?_⟩
  rw [hc, hs]
  exact fun x hx => List.mem_append_right _ (List.mem_cons_of_mem _ hx)

/-- Settled types are coherent: above a complete chain all chains are complete. -/
theorem IsSettled.coherent (h : IsSettled types) : Coherent types := by
  refine ⟨fun a ha => .inl (h a ha), fun a ha hr b hb => ?_⟩
  rw [TypeDefinition.isResolved, h a ha, isResolved_settledStanding_iff] at hr
  obtain ⟨c, hc, rfl, he, -⟩ := exists_above hr hb
  rw [isResolvedAt_of_mem hc, TypeDefinition.isResolved, h c hc]
  exact isResolved_settledStanding_iff.2 he

/-- No type is on its own chain, where that is complete. -/
theorem not_mem_chain (ha : a ∈ types.entries) (h : types.ending a.toDeclaration = .complete) :
    a.id ∉ (types.chain a.toDeclaration).map (·.id) := by
  intro hm
  obtain ⟨b, hb, hid⟩ := List.mem_map.1 hm
  obtain ⟨xs, ys, hs⟩ := List.append_of_mem hb
  obtain ⟨hf, -, hc⟩ := complete_above h hs
  rw [hid, declaration?_of_mem ha] at hf
  obtain rfl := Option.some.inj hf
  -- the chain would be a proper part of itself
  have hlen := congrArg List.length hs
  rw [hc, List.length_append, List.length_cons] at hlen
  omega

namespace Coherent

variable (h : Coherent types)

include h

/-- What is resolved is not deferred. -/
theorem settled_of_resolved (ha : a ∈ types.entries) (hr : a.isResolved = true) :
    a.standing = settledStanding types a.toDeclaration := by
  refine (h.standing a ha).resolve_right fun hd => ?_
  rw [TypeDefinition.isResolved, hd.1] at hr
  cases hr

theorem complete_of_resolved (ha : a ∈ types.entries) (hr : a.isResolved = true) :
    types.ending a.toDeclaration = .complete := by
  rw [TypeDefinition.isResolved, h.settled_of_resolved ha hr] at hr
  exact isResolved_settledStanding_iff.1 hr

/-- **A type is a root if and only if it has no parent.** -/
theorem root_iff (ha : a ∈ types.entries) : a.standing = .root ↔ a.parent = none := by
  rcases h.standing a ha with hs | ⟨hs, hp⟩
  · rw [hs]; exact standingWhere_eq_root_iff
  · rw [hs]; exact ⟨fun e => (by cases e), fun e => absurd e hp⟩

/-- A type that is not resolved has a parent: one without is resolved at once. -/
theorem exists_parent (ha : a ∈ types.entries) (hu : a.isResolved = false) :
    ∃ p, a.parent = some p := by
  refine Option.ne_none_iff_exists'.1 fun hnone => ?_
  rw [TypeDefinition.isResolved, (h.root_iff ha).2 hnone] at hu
  cases hu

/-- What a type has from its chain, be it a root or not. -/
theorem heritage_of_resolved (ha : a ∈ types.entries) (hr : a.isResolved = true) :
    a.ancestors = (types.chain a.toDeclaration).map (·.id) ∧
      a.inherited =
        ({} : Rules).nearest (Rules.concat ((types.chain a.toDeclaration).map (·.toRules))) := by
  have he := h.complete_of_resolved ha hr
  have hs := h.settled_of_resolved ha hr
  by_cases hc : types.chain a.toDeclaration = []
  · rw [settledStanding, standingWhere_of_top he hc] at hs
    simp [TypeDefinition.ancestors, TypeDefinition.inherited, hs, hc]
  · rw [settledStanding, standingWhere_of_all he hc fun _ _ => rfl] at hs
    simp [TypeDefinition.ancestors, TypeDefinition.inherited, hs, heritageOf]

/-- **A resolved type has what its parent has**, as the parent is stored now. -/
theorem inherits (ha : a ∈ types.entries) {g : Heritage} (hg : a.standing = .resolved g) :
    ∃ p P, a.parent = some p ∧ types.find? p = some P ∧ P.isResolved = true ∧
      g.ancestors = P.id :: P.ancestors ∧ g.toRules = P.effective := by
  have hr : a.isResolved = true := by rw [TypeDefinition.isResolved, hg]; rfl
  have hs := h.settled_of_resolved ha hr
  rw [hg, eq_comm, settledStanding_eq_resolved_iff] at hs
  obtain ⟨he, hc, rfl⟩ := hs
  obtain ⟨b, bs, hb⟩ := List.exists_cons_of_ne_nil hc
  -- the parent is the first of the chain, and its chain is the rest
  obtain ⟨hf, hbe, hbs⟩ := complete_above he (show types.chain _ = [] ++ b :: bs from hb)
  obtain ⟨P, hP, rfl⟩ := exists_mem_of_declaration? hf
  have hPr : P.isResolved = true := by
    have := h.above a ha hr P.toDeclaration (by rw [hb]; exact List.mem_cons_self)
    rwa [isResolvedAt_of_mem hP] at this
  obtain ⟨hanc, hinh⟩ := h.heritage_of_resolved hP hPr
  refine ⟨P.id, P, ?_, Catalog.find?_of_mem hP, hPr, ?_, ?_⟩
  · rw [parent_of_complete he, hb]; rfl
  · rw [hanc, hbs, hb]; rfl
  · rw [TypeDefinition.effective, hinh, hbs, hb, heritageOf, List.map_cons]
    exact Rules.nearest_concat _ _

/-- **Whatever is in a lineage is stored, and its own lineage is a part of it**, by induction on the
length of the lineage. -/
theorem lineage_subset (ha : a ∈ types.entries) {t : TypeId} (ht : t ∈ a.lineage) :
    ∃ b, types.find? t = some b ∧ b.lineage ⊆ a.lineage := by
  obtain ⟨n, hn⟩ : ∃ n, a.ancestors.length = n := ⟨_, rfl⟩
  induction n generalizing a with
  | zero =>
    rw [TypeDefinition.lineage, List.length_eq_zero_iff.1 hn] at ht
    obtain rfl := List.mem_singleton.1 ht
    exact ⟨a, Catalog.find?_of_mem ha, List.Subset.refl _⟩
  | succ n ih =>
    cases hs : a.standing with
    | resolved g =>
      -- the rest of the lineage is the lineage of the parent
      obtain ⟨p, P, -, hP, -, hanc, -⟩ := h.inherits ha hs
      have hlin : a.lineage = a.id :: P.lineage := by
        rw [TypeDefinition.lineage, TypeDefinition.ancestors, hs]
        exact congrArg (a.id :: ·) hanc
      have hlen : P.ancestors.length = n := by
        have hcount := congrArg List.length hlin
        simp only [TypeDefinition.lineage, List.length_cons, hn] at hcount
        omega
      rw [hlin] at ht ⊢
      rcases List.mem_cons.1 ht with rfl | ht
      · exact ⟨a, Catalog.find?_of_mem ha, hlin ▸ List.Subset.refl _⟩
      · obtain ⟨b, hb, hsub⟩ := ih (Catalog.mem_of_find? hP) ht hlen
        exact ⟨b, hb, List.subset_cons_of_subset _ hsub⟩
    | root => simp [TypeDefinition.ancestors, hs] at hn
    | deferred => simp [TypeDefinition.ancestors, hs] at hn
    | cyclic => simp [TypeDefinition.ancestors, hs] at hn

/-- **No type is among its own ancestors.** -/
theorem not_mem_ancestors (ha : a ∈ types.entries) : a.id ∉ a.ancestors := by
  cases hr : a.isResolved with
  | true =>
    rw [(h.heritage_of_resolved ha hr).1]
    exact not_mem_chain ha (h.complete_of_resolved ha hr)
  | false =>
    cases hs : a.standing with
    | resolved g => rw [TypeDefinition.isResolved, hs] at hr; cases hr
    | root => simp [TypeDefinition.ancestors, hs]
    | deferred => simp [TypeDefinition.ancestors, hs]
    | cyclic => simp [TypeDefinition.ancestors, hs]

end Coherent

end Taxonomy
