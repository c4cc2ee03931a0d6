import Taxonomy.Registry.Health
import Taxonomy.Proofs.Inheritance.Circles
import Taxonomy.Proofs.Registry.Resolution
import Taxonomy.Proofs.TypeId.Order

/-!
# What the problems say

Where a type stands is kept with it; why it is not resolved is looked up anew when the problems are
asked for. The two agree in every state that a run leads to.

* `Problem.Holds`: what a problem says of the declared parents.
* `problemOf_holds`: what the problem of a type says is the case.
* `problems_diagnose`: there is one problem for each type that is not resolved, and no other one.
-/

namespace Taxonomy

open Registry Relation TypeCatalog

variable {c : Contents} {s : Snapshot} {d : TypeDefinition} {t m u : TypeId}
  {members : List TypeId}

/-! ## The order of problems -/

theorem sortedTypes_perm (s : Snapshot) : s.sortedTypes.Perm s.types :=
  List.mergeSort_perm s.types fun a b => a.id.le b.id

/-- **The stored types in order**, none of them twice. -/
theorem sortedTypes_before (s : Snapshot) : (s.sortedTypes.map (·.id)).Pairwise TypeId.Before :=
  pairwise_before_mergeSort (fun d : TypeDefinition => d.id) s.contents.types.nodup

@[simp] theorem problemOf_type (d : TypeDefinition) (types : List TypeDefinition) :
    (problemOf d types).type = d.id := by
  simp only [problemOf]
  split <;> rfl

/-- **Problems are in the order of their types**, and no type has two. -/
theorem problems_before (s : Snapshot) : (s.problems.map (·.type)).Pairwise TypeId.Before := by
  have htypes : s.problems.map (·.type) = (s.sortedTypes.filter (!·.isResolved)).map (·.id) := by
    rw [Snapshot.problems, List.map_map]
    exact List.map_congr_left fun d _ => problemOf_type d _
  rw [htypes]
  exact (sortedTypes_before s).sublist (List.filter_sublist.map _)

theorem problemOf_mem (hm : d ∈ s.contents.types.entries) (hu : d.isResolved = false) :
    problemOf d s.contents.types.entries ∈ s.problems :=
  List.mem_map_of_mem (List.mem_filter.2 ⟨(sortedTypes_perm s).mem_iff.2 hm, by rw [hu]; rfl⟩)

/-- **The types with problems are the types that are not resolved.** -/
theorem mem_problems_types :
    t ∈ s.problems.map (·.type) ↔ ∃ d, s.type? t = some d ∧ d.isResolved = false := by
  rw [List.mem_map]
  constructor
  · rintro ⟨p, hp, rfl⟩
    obtain ⟨d, hm, hu, rfl⟩ := mem_problems hp
    rw [problemOf_type]
    exact ⟨d, Catalog.find?_of_mem hm, hu⟩
  · rintro ⟨d, hd, hu⟩
    obtain ⟨hm, rfl⟩ := Catalog.find?_eq_some_iff.1 hd
    exact ⟨_, problemOf_mem hm hu, problemOf_type d _⟩

theorem length_problems (s : Snapshot) : s.problems.length = s.stats.unresolved := by
  rw [Snapshot.problems, List.length_map, ← List.countP_eq_length_filter]
  exact (sortedTypes_perm s).countP_eq _

theorem isSound_health_iff (s : Snapshot) : s.health.isSound = true ↔ s.problems = [] := by
  rw [HealthReport.isSound, Snapshot.health]
  cases s.problems <;> simp

/-! ## What a problem says -/

/-- **What a problem says of the declared parents.** A type is not resolved because

* they lead into a circle of registered types,
* they lead to an id that is not registered, and to no other such id, or
* all types on the way are registered and the last one has no parent, but an ancestor waits to be
  resolved, or the type itself does. -/
def Problem.Holds (c : Contents) : Problem → Prop
  | .cyclic t members => Circle c.DeclaresParent members ∧
      ∀ m ∈ members, c.registrations.contains m = true ∧ ReflTransGen c.DeclaresParent t m
  | .missing t m => ReflTransGen c.DeclaresParent t m ∧
      ∀ u, ReflTransGen c.DeclaresParent t u → (c.registrations.contains u = false ↔ u = m)
  | .pending t m =>
      (∀ u, ReflTransGen c.DeclaresParent t u → c.registrations.contains u = true) ∧
      (∃ u reg, ReflTransGen c.DeclaresParent t u ∧ c.registrations.find? u = some reg ∧
        reg.declaration.parent = none) ∧
      TransGen c.DeclaresParent t m ∧ (c.types.isResolvedAt m = false ∨ c.DeclaresParent t m)

theorem problemOf_of_cycle (he : c.types.ending d.toDeclaration = .cycle members) :
    problemOf d c.types.entries = .cyclic d.id members := by
  have hw : (walk d.toDeclaration c.types.entries).ending = .cycle members := he
  simp only [problemOf, hw]

theorem problemOf_of_missing (he : c.types.ending d.toDeclaration = .missing m) :
    problemOf d c.types.entries = .missing d.id m := by
  have hw : (walk d.toDeclaration c.types.entries).ending = .missing m := he
  simp only [problemOf, hw]

/-- Who has a parent is registered. -/
theorem Contents.DeclaresParent.contains (h : c.DeclaresParent t u) :
    c.registrations.contains t = true := by
  obtain ⟨reg, hreg, -⟩ := h
  rw [Catalog.contains, hreg]
  rfl

/-- Every type has at most one parent. -/
theorem rightUnique_declaresParent (c : Contents) : Relator.RightUnique c.DeclaresParent := by
  rintro t p q ⟨reg, hreg, hp⟩ ⟨reg', hreg', hq⟩
  rw [hreg] at hreg'
  obtain rfl := Option.some.inj hreg'
  exact Option.some.inj (hp.symm.trans hq)

/-- Who is not registered has no parent. -/
theorem not_declaresParent (h : c.registrations.contains t = false) (u : TypeId) :
    ¬ c.DeclaresParent t u := by
  intro hp
  rw [hp.contains] at h
  cases h

section Endings

variable (h : c.Sound) (hm : d ∈ c.types.entries)

include h

theorem contains_iff :
    c.registrations.contains t = false ↔ c.types.declaration? t = none := by
  rw [declaration?_eq_none_iff, h.find?_eq_none_iff, Catalog.contains, Option.isSome_eq_false_iff,
    Option.isNone_iff_eq_none]

include hm

theorem cyclic_holds (he : c.types.ending d.toDeclaration = .cycle members) :
    (Problem.cyclic d.id members).Holds c := by
  have hcircle := circle_of_cycle (known_of_mem hm) he
  rw [h.childOf_eq] at hcircle
  refine ⟨hcircle, fun m hmem => ?_⟩
  rw [mem_cycle_iff (declaration?_of_mem hm) he, h.childOf_eq] at hmem
  -- a member comes back to itself, so that it has a parent
  obtain ⟨u, hstep, -⟩ := TransGen.head'_iff.1 hmem.2
  exact ⟨hstep.contains, hmem.1⟩

theorem missing_holds (he : c.types.ending d.toDeclaration = .missing m) :
    (Problem.missing d.id m).Holds c := by
  have hr := walk_reports c.types d.toDeclaration
  rw [he] at hr
  have hpath := path_of_climbs (declaration?_of_mem hm) hr.1
  have hnone := (contains_iff h).2 hr.2
  rw [h.childOf_eq] at hpath
  refine ⟨hpath, fun u hu => ⟨fun hun => ?_, fun hum => by rw [hum, hnone]⟩⟩
  -- what is on the way leads to the end of it, but from an unknown id no step leads on
  have hend := path_to_end (rightUnique_declaresParent c) (not_declaresParent hnone) hpath hu
  exact ((reflTransGen_iff_eq (not_declaresParent hun)).1 hend).symm

/-- The types on a chain are above the type. -/
theorem trans_of_mem_chain {b : Declaration}
    (he : c.types.ending d.toDeclaration = .complete) (hb : b ∈ c.types.chain d.toDeclaration) :
    TransGen c.DeclaresParent d.id b.id := by
  have hpath := (mem_chain_iff (declaration?_of_mem hm) he).1 ⟨b, hb, rfl⟩
  rwa [h.childOf_eq] at hpath

/-- All that is on the way to a type without a parent is registered. -/
theorem contains_of_complete (he : c.types.ending d.toDeclaration = .complete)
    (hu : ReflTransGen c.DeclaresParent d.id u) : c.registrations.contains u = true := by
  obtain ⟨top, reg, hpath, hreg, htop⟩ := (h.complete_iff (declaration?_of_mem hm)).1 he
  have hstop : ∀ y, ¬ c.DeclaresParent top y := by
    rintro y ⟨reg', hreg', hy⟩
    rw [Option.some.inj (hreg'.symm.trans hreg), htop] at hy
    cases hy
  -- from what is on the way a path leads to the top, and who makes a step is registered
  rcases (path_to_end (rightUnique_declaresParent c) hstop hpath hu).cases_head with rfl | ⟨y, hy, -⟩
  · rw [Catalog.contains, hreg]
    rfl
  · exact hy.contains

/-- Where the chain is complete, an ancestor waits, or the type itself does. -/
theorem problemOf_of_complete (hu : d.isResolved = false)
    (he : c.types.ending d.toDeclaration = .complete) :
    ∃ m, problemOf d c.types.entries = .pending d.id m ∧ TransGen c.DeclaresParent d.id m ∧
      (c.types.isResolvedAt m = false ∨ c.DeclaresParent d.id m) := by
  have hw : (walk d.toDeclaration c.types.entries).ending = .complete := he
  obtain ⟨p, hp⟩ := h.coherent.exists_parent hm hu
  have hstep : c.DeclaresParent d.id p := by
    rw [← h.childOf_eq]
    exact ⟨d.toDeclaration, declaration?_of_mem hm, hp⟩
  simp only [problemOf, hw]
  -- the first ancestor that waits is named, and the parent where none does
  cases hb : (walk d.toDeclaration c.types.entries).chain.find? (!·.isResolved) with
  | none => exact ⟨p, by rw [hp]; rfl, .single hstep, .inr hstep⟩
  | some b =>
    have hmem := List.mem_of_find?_eq_some hb
    have hfind : c.types.find? b.id = some b := find?_of_mem_walk hmem
    refine ⟨b.id, rfl, trans_of_mem_chain h hm he (List.mem_map_of_mem hmem), .inl ?_⟩
    rw [isResolvedAt_of_mem (Catalog.mem_of_find? hfind)]
    simpa using List.find?_some hb

/-- **What the problem of a type says is the case.** -/
theorem problemOf_holds (hu : d.isResolved = false) : (problemOf d c.types.entries).Holds c := by
  cases he : c.types.ending d.toDeclaration with
  | complete =>
    obtain ⟨m, hp, hmem, hwaits⟩ := problemOf_of_complete h hm hu he
    rw [hp]
    exact ⟨fun u => contains_of_complete h hm he,
      (h.complete_iff (declaration?_of_mem hm)).1 he, hmem, hwaits⟩
  | cycle members =>
    rw [problemOf_of_cycle he]
    exact cyclic_holds h hm he
  | missing m =>
    rw [problemOf_of_missing he]
    exact missing_holds h hm he

/-- A type that stands as cyclic is reported so. -/
theorem problemOf_of_cyclic (hst : d.standing = .cyclic) :
    ∃ members, problemOf d c.types.entries = .cyclic d.id members := by
  rcases h.coherent.standing d hm with hs | ⟨hs, -⟩
  · rw [hst] at hs
    obtain ⟨members, he⟩ := standingWhere_eq_cyclic_iff.1 hs.symm
    exact ⟨members, problemOf_of_cycle he⟩
  · rw [hst] at hs
    cases hs

end Endings

/-- **The problems are those there are, and all of them.** In every state that a run leads to they
are in the order of ids, there is one for each type that is not resolved and none for another type,
and what they say of the declared parents is the case; what stands as cyclic is reported as cyclic.
They are as many as the statistics count, and the registry is structurally sound if there is
none. -/
theorem problems_diagnose {r : Registry} (hr : r.Reachable) :
    (r.snapshot.problems.map (·.type)).Pairwise TypeId.Before ∧
    (∀ t, t ∈ r.snapshot.problems.map (·.type) ↔
      ∃ d, r.snapshot.type? t = some d ∧ d.isResolved = false) ∧
    (∀ p ∈ r.snapshot.problems, p.Holds r.snapshot.contents) ∧
    (∀ t d, r.snapshot.type? t = some d → d.standing = .cyclic →
      ∃ members, .cyclic t members ∈ r.snapshot.problems) ∧
    r.snapshot.problems.length = r.snapshot.stats.unresolved ∧
    (r.snapshot.health.isSound = true ↔ r.snapshot.problems = []) := by
  refine ⟨problems_before _, fun t => mem_problems_types, fun p hp => ?_, fun t d hd hst => ?_,
    length_problems _, isSound_health_iff _⟩
  · obtain ⟨d, hm, hu, rfl⟩ := mem_problems hp
    exact problemOf_holds hr.sound hm hu
  · obtain ⟨hm, rfl⟩ := Catalog.find?_eq_some_iff.1 hd
    obtain ⟨members, hp⟩ := problemOf_of_cyclic hr.sound hm hst
    have hu : d.isResolved = false := by rw [TypeDefinition.isResolved, hst]; rfl
    exact ⟨members, hp ▸ problemOf_mem hm hu⟩

/-- A loop with a type below it, a type whose parent is not registered, and one whose parent was
registered after it. -/
def loopProblems : List Problem :=
  [.pending ⟨"file", "folder"⟩ ⟨"file", "base"⟩,
    .cyclic ⟨"node", "left"⟩ [⟨"node", "left"⟩, ⟨"node", "right"⟩],
    .missing ⟨"node", "open"⟩ ⟨"node", "lost"⟩,
    .cyclic ⟨"node", "right"⟩ [⟨"node", "right"⟩, ⟨"node", "left"⟩],
    .cyclic ⟨"node", "tail"⟩ [⟨"node", "left"⟩, ⟨"node", "right"⟩]]

theorem problems_diagnose_loop :
    let s := (({ name := "nodes" } : Registry).run loopRun).snapshot
    s.problems.Perm loopProblems ∧ (s.problems.map (·.type)).Pairwise TypeId.Before ∧
      (∀ p ∈ loopProblems, p.Holds s.contents) ∧ s.stats.unresolved = 5 ∧
      s.health.isSound = false := by
  intro s
  have hr : (({ name := "nodes" } : Registry).run loopRun).Reachable := ⟨"nodes", loopRun, rfl⟩
  have hfound : ((s.types.filter (!·.isResolved)).map (problemOf · s.types)).Perm loopProblems := by
    decide +kernel
  have hperm : s.problems.Perm loopProblems :=
    (((sortedTypes_perm s).filter _).map _).trans hfound
  obtain ⟨hbefore, -, hholds, -, hlength, hsound⟩ := problems_diagnose hr
  refine ⟨hperm, hbefore, fun p hp => hholds p (hperm.mem_iff.2 hp), ?_, ?_⟩
  · exact hlength.symm.trans hperm.length_eq
  · rw [Bool.eq_false_iff, ne_eq, hsound]
    intro hnil
    exact absurd (hnil ▸ hperm).length_eq (by decide)

end Taxonomy
