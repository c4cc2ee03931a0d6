import Taxonomy.Registry.Contents
import Taxonomy.Proofs.Inheritance.Growth
import Taxonomy.Proofs.Inheritance.Settling

/-!
# Extending a type

What a commit does to the stored types: the extension is laid over one of them, and the types below
it are looked up anew.

* `extended`: what a commit leads to, said at once for all types.
* `coherent_extended`: coherent standings stay coherent.
* `commit_types`: looking up anew only the type itself and those below it suffices.
-/

namespace Taxonomy

open TypeCatalog

variable {types : TypeCatalog} {c : Contents} {t : TypeId} {e : Extension}

/-- The definition with an extension laid over it, if it is that of a type. -/
def extendIf (t : TypeId) (e : Extension) (a : TypeDefinition) : TypeDefinition :=
  if a.id == t then a.extend e else a

/-- The declaration with an extension laid over it, if it is that of a type. -/
def overlayIf (t : TypeId) (e : Extension) (a : Declaration) : Declaration :=
  if a.id == t then { a with toRules := a.toRules.overlay e.toRules } else a

@[simp] theorem extendIf_toDeclaration (a : TypeDefinition) :
    (extendIf t e a).toDeclaration = overlayIf t e a.toDeclaration := by
  unfold extendIf overlayIf; split <;> rfl

@[simp] theorem extendIf_standing (a : TypeDefinition) :
    (extendIf t e a).standing = a.standing := by
  unfold extendIf; split <;> rfl

@[simp] theorem overlayIf_id (a : Declaration) : (overlayIf t e a).id = a.id := by
  unfold overlayIf; split <;> rfl

@[simp] theorem overlayIf_parent (a : Declaration) : (overlayIf t e a).parent = a.parent := by
  unfold overlayIf; split <;> rfl

theorem overlayIf_of_ne {a : Declaration} (h : a.id ≠ t) : overlayIf t e a = a :=
  if_neg (by simpa using h)

/-- The types with an extension laid over one of them. -/
def extendAt (types : TypeCatalog) (t : TypeId) (e : Extension) : TypeCatalog :=
  types.map (extendIf t e) fun a => by rw [extendIf_toDeclaration, overlayIf_id]

theorem mem_extendAt {a : TypeDefinition} :
    a ∈ (extendAt types t e).entries ↔ ∃ b ∈ types.entries, extendIf t e b = a :=
  List.mem_map

theorem revises_extendAt (types : TypeCatalog) (t : TypeId) (e : Extension) :
    Revises (overlayIf t e) types (extendAt types t e) where
  id _ := overlayIf_id _
  parent _ := overlayIf_parent _
  declaration? q := by
    simp only [TypeCatalog.declaration?, extendAt, Catalog.find?_map, Option.map_map,
      Function.comp_def, extendIf_toDeclaration]

theorem isResolvedAt_extendAt (q : TypeId) :
    (extendAt types t e).isResolvedAt q = types.isResolvedAt q := by
  simp only [TypeCatalog.isResolvedAt, extendAt, Catalog.find?_map, Option.any_map,
    TypeDefinition.isResolved, extendIf_standing]

/-- The chain of a resolved type after an extension. -/
theorem resolved_extendAt (hc : Coherent types) {b : TypeDefinition} (hb : b ∈ types.entries)
    (hr : b.isResolved = true) :
    (extendAt types t e).ending (extendIf t e b).toDeclaration = .complete ∧
      (extendAt types t e).chain (extendIf t e b).toDeclaration =
        (types.chain b.toDeclaration).map (overlayIf t e) := by
  obtain ⟨he, hch⟩ := (revises_extendAt types t e).ending_complete (known_of_mem hb)
    (hc.complete_of_resolved hb hr)
  have hstart : (extendAt types t e).chain (extendIf t e b).toDeclaration =
        (extendAt types t e).chain b.toDeclaration ∧
      (extendAt types t e).ending (extendIf t e b).toDeclaration =
        (extendAt types t e).ending b.toDeclaration := walk_start (by simp) (by simp)
  exact ⟨hstart.2.trans he, hstart.1.trans hch⟩

/-- **What an extension leads to**: resolved types stand as their declared parents decide after the
extension, and the others as before. -/
def extended (types : TypeCatalog) (t : TypeId) (e : Extension) : TypeCatalog :=
  (extendAt types t e).restand fun a =>
    if a.isResolved then settledStanding (extendAt types t e) a.toDeclaration else a.standing

theorem isResolved_extended (hc : Coherent types) {a : TypeDefinition}
    (ha : a ∈ (extendAt types t e).entries) :
    (if a.isResolved then settledStanding (extendAt types t e) a.toDeclaration
      else a.standing).isResolved = a.isResolved := by
  by_cases hr : a.isResolved = true
  · obtain ⟨b, hb, rfl⟩ := mem_extendAt.1 ha
    have hr' : b.isResolved = true := by rwa [TypeDefinition.isResolved, extendIf_standing] at hr
    rw [if_pos hr, hr]
    exact isResolved_settledStanding_iff.2 (resolved_extendAt hc hb hr').1
  · rw [if_neg hr, TypeDefinition.isResolved]

theorem isResolvedAt_extended (hc : Coherent types) (q : TypeId) :
    (extended types t e).isResolvedAt q = types.isResolvedAt q := by
  rw [extended, isResolvedAt_restand, ← isResolvedAt_extendAt (t := t) (e := e),
    TypeCatalog.isResolvedAt]
  cases hf : (extendAt types t e).find? q with
  | none => rfl
  | some a => exact isResolved_extended hc (Catalog.mem_of_find? hf)

/-- **An extension keeps standings coherent.** -/
theorem coherent_extended (hc : Coherent types) : Coherent (extended types t e) := by
  have hres := fun q => isResolvedAt_extended (t := t) (e := e) hc q
  constructor
  · intro x hx
    obtain ⟨a, ha, rfl⟩ := mem_restand.1 hx
    obtain ⟨b, hb, rfl⟩ := mem_extendAt.1 ha
    simp only [extended, settledStanding_restand]
    by_cases hr : (extendIf t e b).isResolved = true
    · exact .inl (if_pos hr)
    rw [if_neg hr, extendIf_standing]
    rcases hc.standing b hb with hs | ⟨hs, hp⟩
    · -- an unresolved type that stands as its parents decide is deferred or cyclic
      have hstart : settledStanding (extendAt types t e) (extendIf t e b).toDeclaration =
          settledStanding (extendAt types t e) b.toDeclaration :=
        settledStanding_start (by simp) (by simp)
      refine .inl ?_
      rw [hs, hstart]
      cases he : types.ending b.toDeclaration with
      | complete =>
        rw [TypeDefinition.isResolved, extendIf_standing, hs,
          isResolved_settledStanding_iff] at hr
        exact absurd he hr
      | missing m =>
        have he' := (revises_extendAt types t e).ending_missing (known_of_mem hb) he
        rw [settledStanding, standingWhere_of_missing he, settledStanding,
          standingWhere_of_missing he']
      | cycle members =>
        obtain ⟨_, he'⟩ := (revises_extendAt types t e).ending_cycle (known_of_mem hb) he
        rw [settledStanding, standingWhere_of_cycle he, settledStanding,
          standingWhere_of_cycle he']
    · exact .inr ⟨hs, by simpa using hp⟩
  · intro z hz hr x hx
    rw [hres]
    obtain ⟨a, ha, rfl⟩ := mem_restand.1 hz
    rw [TypeDefinition.isResolved, isResolved_extended hc ha] at hr
    obtain ⟨b, hb, rfl⟩ := mem_extendAt.1 ha
    have hr' : b.isResolved = true := by rwa [TypeDefinition.isResolved, extendIf_standing] at hr
    rw [extended, chain_restand, (resolved_extendAt hc hb hr').2, List.mem_map] at hx
    obtain ⟨y, hy, rfl⟩ := hx
    rw [overlayIf_id]
    exact hc.above b hb hr' y hy

/-- A resolved type, looked up anew after the extension. -/
theorem standing_extendAt (hc : Coherent types) {b : TypeDefinition} (hb : b ∈ types.entries)
    (hr : b.isResolved = true) :
    standing (extendIf t e b).toDeclaration (extendAt types t e).entries =
      settledStanding (extendAt types t e) (extendIf t e b).toDeclaration := by
  obtain ⟨he, hch⟩ := resolved_extendAt (t := t) (e := e) hc hb hr
  rw [standing_eq]
  refine standingWhere_eq_settled (isResolved_standingWhere_iff.2 ⟨he, fun x hx => ?_⟩)
  rw [hch, List.mem_map] at hx
  obtain ⟨y, hy, rfl⟩ := hx
  rw [isResolvedAt_extendAt, overlayIf_id]
  exact hc.above b hb hr y hy

theorem declaration?_extendAt_of_ne {q : TypeId} (h : q ≠ t) :
    (extendAt types t e).declaration? q = types.declaration? q := by
  rw [(revises_extendAt types t e).declaration?]
  cases hq : types.declaration? q with
  | none => rfl
  | some d => rw [Option.map_some, overlayIf_of_ne (by rwa [id_of_declaration? hq])]

/-- The extended type itself, looked up before the extension is stored. -/
theorem standing_extend (hc : Coherent types) {a : TypeDefinition} (ha : a ∈ types.entries)
    (hr : a.isResolved = true) :
    standing (a.extend e).toDeclaration types.entries =
      settledStanding (extendAt types a.id e) (a.extend e).toDeclaration := by
  obtain ⟨hch, hend⟩ : types.chain (a.extend e).toDeclaration = types.chain a.toDeclaration ∧
      types.ending (a.extend e).toDeclaration = types.ending a.toDeclaration := walk_start rfl rfl
  have hall : ∀ x ∈ types.chain (a.extend e).toDeclaration,
      types.isResolvedAt x.id = true := by
    intro x hx
    rw [hch] at hx
    exact hc.above a ha hr x hx
  rw [standing_eq, standingWhere_eq_settled (isResolved_standingWhere_iff.2
    ⟨hend.trans (hc.complete_of_resolved ha hr), hall⟩)]
  exact settledStanding_congr fun q hq => (declaration?_extendAt_of_ne hq).symm

/-- **The extended definition goes to its place.** -/
theorem insert_extension (hc : Coherent types) {a : TypeDefinition} (ha : a ∈ types.entries) :
    types.insert (if a.isResolved then resolve (a.extend e) types else a.extend e) =
      (extendAt types a.id e).restand fun x =>
        if x.id = a.id ∧ x.isResolved = true then
          settledStanding (extendAt types a.id e) x.toDeclaration
        else x.standing := by
  have hstored : (if a.isResolved then resolve (a.extend e) types else a.extend e) =
      { a.extend e with
        standing := if a.isResolved then settledStanding (extendAt types a.id e)
          (a.extend e).toDeclaration else a.standing } := by
    by_cases hr : a.isResolved = true
    · simp only [hr, if_true, resolve, standing_extend hc ha hr]
    · simp only [hr, if_false, Bool.false_eq_true]
      rfl
  have hf : types.find? (if a.isResolved then resolve (a.extend e) types else a.extend e).id =
      some a := by
    rw [hstored]
    exact Catalog.find?_of_mem ha
  rw [Catalog.insert_eq_map hf, hstored]
  refine Catalog.ext ?_
  simp only [Catalog.entries_map, restand, extendAt, List.map_map]
  refine List.map_congr_left fun b hb => ?_
  by_cases h : b.id = a.id
  · obtain rfl := eq_of_mem hb ha h
    have hx : extendIf b.id e b = b.extend e := if_pos (by simp)
    simp [hx, TypeDefinition.isResolved, TypeDefinition.extend]
  · have hx : extendIf a.id e b = b := if_neg (by simpa using h)
    simp [hx, h]

/-- Extended types count as resolved if and only if they did before the commit. -/
theorem isResolved_insert_extension (hc : Coherent types) {a : TypeDefinition}
    (ha : a ∈ (extendAt types t e).entries) :
    (if a.id = t ∧ a.isResolved = true then settledStanding (extendAt types t e) a.toDeclaration
      else a.standing).isResolved = a.isResolved := by
  have h := isResolved_extended hc ha
  by_cases hr : a.isResolved = true
  · rw [if_pos hr] at h
    split
    · exact h
    · rfl
  · rw [if_neg fun hp => hr hp.2]
    rfl

theorem mem_below_iff {a : TypeDefinition} (ha : a ∈ c.types.entries) :
    a.id ∈ c.below t ↔ t ∈ a.ancestors := by
  simp only [Contents.below, List.mem_map, List.mem_filter, List.contains_iff_mem]
  constructor
  · rintro ⟨b, ⟨hb, ht⟩, hid⟩
    rwa [eq_of_mem hb ha hid] at ht
  · exact fun ht => ⟨a, ⟨ha, ht⟩, rfl⟩

/-- Who is below a type is resolved, and is another type. -/
theorem resolved_of_mem_ancestors (hc : Coherent types) {a : TypeDefinition}
    (ha : a ∈ types.entries) (ht : t ∈ a.ancestors) : a.isResolved = true ∧ a.id ≠ t := by
  refine ⟨?_, fun h => hc.not_mem_ancestors ha (h ▸ ht)⟩
  cases hs : a.standing with
  | root => rw [TypeDefinition.isResolved, hs]; rfl
  | resolved g => rw [TypeDefinition.isResolved, hs]; rfl
  | deferred => simp [TypeDefinition.ancestors, hs] at ht
  | cyclic => simp [TypeDefinition.ancestors, hs] at ht

/-- A resolved type that has not the extended one above it stands as before. -/
theorem settledStanding_extendAt (hc : Coherent types) {a : TypeDefinition}
    (ha : a ∈ types.entries) (hr : a.isResolved = true) (ht : t ∉ a.ancestors) (hne : a.id ≠ t) :
    settledStanding (extendAt types t e) a.toDeclaration = a.standing := by
  obtain ⟨he, hch⟩ := resolved_extendAt (t := t) (e := e) hc ha hr
  have hx : extendIf t e a = a := if_neg (by simpa using hne)
  rw [hx] at he hch
  have hsame : (types.chain a.toDeclaration).map (overlayIf t e) =
      types.chain a.toDeclaration := by
    rw [(hc.heritage_of_resolved ha hr).1] at ht
    refine (List.map_congr_left fun b hb => ?_).trans (List.map_id _)
    exact overlayIf_of_ne fun h => ht (h ▸ List.mem_map_of_mem hb)
  rw [hsame] at hch
  rw [hc.settled_of_resolved ha hr]
  simp only [settledStanding, standingWhere, he, hch, hc.complete_of_resolved ha hr]

/-- **Looking anew at the type and at those below it suffices**: all resolved types then stand as
their declared parents decide. -/
theorem commit_types (hc : Coherent c.types) {a : TypeDefinition} (ha : a ∈ c.types.entries) :
    Contents.refresh
        (c.types.insert (if a.isResolved then resolve (a.extend e) c.types else a.extend e))
        (c.below a.id) =
      extended c.types a.id e := by
  -- whichever of the types were looked at, one below the extended type is found resolved
  have hbelow : ∀ b ∈ c.types.entries, b.id ∈ c.below a.id → b.isResolved = true ∧
      standing (extendIf a.id e b).toDeclaration (extendAt c.types a.id e).entries =
        settledStanding (extendAt c.types a.id e) (extendIf a.id e b).toDeclaration := by
    intro b hb hm
    have hr := (resolved_of_mem_ancestors hc hb ((mem_below_iff hb).1 hm)).1
    exact ⟨hr, standing_extendAt hc hb hr⟩
  have hkept : ∀ x ∈ (extendAt c.types a.id e).entries, _ :=
    fun x hx => isResolved_insert_extension hc hx
  have hsame := fun d => standing_restand hkept d
  have hrefresh : Contents.refresh = markRemaining := rfl
  rw [insert_extension hc ha, hrefresh, markRemaining_restand, restand_restand, extended]
  · refine restand_congr fun x hx => ?_
    rw [hsame]
    obtain ⟨b, hb, rfl⟩ := mem_extendAt.1 hx
    have hid : (extendIf a.id e b).id = b.id := by rw [extendIf_toDeclaration, overlayIf_id]
    have hres : (extendIf a.id e b).isResolved = b.isResolved := by
      rw [TypeDefinition.isResolved, extendIf_standing, TypeDefinition.isResolved]
    simp only [hid, hres]
    by_cases hm : b.id ∈ c.below a.id
    · obtain ⟨hr, hst⟩ := hbelow b hb hm
      rw [if_pos hm, if_pos hr, hst]
    rw [if_neg hm]
    by_cases hr : b.isResolved = true
    · rw [if_pos hr]
      by_cases hne : b.id = a.id
      · rw [if_pos ⟨hne, hr⟩]
      · have hx : extendIf a.id e b = b := if_neg (by simpa using hne)
        rw [if_neg fun hp => hne hp.1, hx]
        exact (settledStanding_extendAt hc hb hr (fun ht => hm ((mem_below_iff hb).2 ht)) hne).symm
    · rw [if_neg hr, if_neg fun hp => hr hp.2]
  · intro x hx hm
    obtain ⟨y, hy, rfl⟩ := mem_restand.1 hx
    rw [hsame]
    obtain ⟨b, hb, rfl⟩ := mem_extendAt.1 hy
    rw [extendIf_toDeclaration, overlayIf_id] at hm
    obtain ⟨hr, hst⟩ := hbelow b hb hm
    rw [hst, isResolved_settledStanding_iff.2 (resolved_extendAt hc hb hr).1]
    refine ((isResolved_insert_extension hc hy).trans ?_).symm
    rwa [TypeDefinition.isResolved, extendIf_standing]

end Taxonomy
