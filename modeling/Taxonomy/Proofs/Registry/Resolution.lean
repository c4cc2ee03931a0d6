import Taxonomy.Registry.Problem
import Taxonomy.Proofs.Inheritance.Parents
import Taxonomy.Proofs.Registry.History

/-!
# Resolving deferred inheritance

The resolution step decides every type by its declared parents alone, counts the
types that it resolves, and has nothing left to do afterwards.

* `settled_classified`: where settled types stand, read off the registrations.
* `resolveDeferred_resolves`: the step from any reachable state.
-/

namespace Taxonomy

open Registry Relation

/-- **A type is registered with this parent.** -/
def Contents.DeclaresParent (c : Contents) (t p : TypeId) : Prop :=
  ∃ reg, c.registrations.find? t = some reg ∧ reg.declaration.parent = some p

theorem declaresParent_iff (c : Contents) (t p : TypeId) :
    c.DeclaresParent t p ↔ (c.registrations.find? t).bind (·.declaration.parent) = some p :=
  Option.bind_eq_some_iff.symm

instance (c : Contents) (t p : TypeId) : Decidable (c.DeclaresParent t p) :=
  decidable_of_iff _ (declaresParent_iff c t p).symm

variable {c : Contents} {r : Registry} {t : TypeId} {d : TypeDefinition}

namespace Contents.Sound

variable (h : c.Sound)

include h

/-- What is declared about a stored type is what its registration amounts to. -/
theorem declaration?_eq (t : TypeId) :
    c.types.declaration? t =
      (c.registrations.find? t).map fun reg => (reg.define .deferred).toDeclaration := by
  rw [← TypeCatalog.declaration?_restand (f := fun _ => .deferred), h.mirrors,
    TypeCatalog.declaration?, find?_defined, Option.map_map]
  rfl

/-- Stored types have the parents that were registered. -/
theorem childOf_eq : c.types.ChildOf = c.DeclaresParent := by
  funext t p
  refine propext ⟨?_, ?_⟩
  · rintro ⟨a, ha, hp⟩
    rw [h.declaration?_eq] at ha
    obtain ⟨reg, hreg, rfl⟩ := Option.map_eq_some_iff.1 ha
    exact ⟨reg, hreg, by rw [← hp, define_parent]⟩
  · rintro ⟨reg, hreg, hp⟩
    refine ⟨(reg.define .deferred).toDeclaration, ?_, by rw [define_parent, hp]⟩
    rw [h.declaration?_eq, hreg, Option.map_some]

/-- A walk is complete exactly if a path leads to a registered type without a parent. -/
theorem complete_iff {a : Declaration} (ha : c.types.declaration? t = some a) :
    c.types.ending a = .complete ↔ ∃ u reg, ReflTransGen c.DeclaresParent t u ∧
      c.registrations.find? u = some reg ∧ reg.declaration.parent = none := by
  rw [ending_complete_iff ha, h.childOf_eq]
  simp only [h.declaration?_eq]
  constructor
  · rintro ⟨u, b, hpath, hb, hp⟩
    obtain ⟨reg, hreg, rfl⟩ := Option.map_eq_some_iff.1 hb
    exact ⟨u, reg, hpath, hreg, by rw [← hp, define_parent]⟩
  · rintro ⟨u, reg, hpath, hreg, hp⟩
    exact ⟨u, _, hpath, by rw [hreg, Option.map_some], by rw [define_parent, hp]⟩

end Contents.Sound

/-- **Where a type stands by its declared parents**: resolved if they lead to a registered type
without a parent, cyclic if they lead into a loop, deferred if they lead to an id that is not
registered. -/
structure Classified (c : Contents) (t : TypeId) (s : Standing) : Prop where
  resolved : s.isResolved = true ↔ ∃ u reg, ReflTransGen c.DeclaresParent t u ∧
    c.registrations.find? u = some reg ∧ reg.declaration.parent = none
  cyclic : s = .cyclic ↔ ∃ u, ReflTransGen c.DeclaresParent t u ∧ TransGen c.DeclaresParent u u
  deferred : s = .deferred ↔
    ∃ u, ReflTransGen c.DeclaresParent t u ∧ c.registrations.find? u = none

/-- **Settled types stand where the registrations put them.** -/
theorem settled_classified (h : c.Sound) (hset : IsSettled c.types)
    (hd : c.types.find? t = some d) : Classified c t d.standing := by
  obtain ⟨hm, rfl⟩ := Catalog.find?_eq_some_iff.1 hd
  have hdecl := declaration?_of_mem hm
  rw [hset d hm]
  constructor
  · rw [isResolved_settledStanding_iff, h.complete_iff hdecl]
  · have hc : settledStanding c.types d.toDeclaration = .cyclic ↔ _ := standingWhere_eq_cyclic_iff
    rw [hc, ending_cycle_iff hdecl, h.childOf_eq]
  · rw [settledStanding_eq_deferred_iff, ending_missing_iff hdecl, h.childOf_eq]
    simp only [h.declaration?_eq, Option.map_eq_none_iff]

/-! ## Problems -/

/-- A settled type that is not resolved does not wait for another one. -/
theorem problemOf_ne_pending (hset : IsSettled c.types) (hm : d ∈ c.types.entries)
    (hu : d.isResolved = false) (t u : TypeId) :
    problemOf d c.types.entries ≠ .pending t u := by
  have hne : c.types.ending d.toDeclaration ≠ .complete := by
    intro he
    rw [TypeDefinition.isResolved, hset d hm, isResolved_settledStanding_iff.2 he] at hu
    cases hu
  have hw : (walk d.toDeclaration c.types.entries).ending = c.types.ending d.toDeclaration := rfl
  unfold problemOf
  simp only [hw]
  cases he : c.types.ending d.toDeclaration with
  | complete => exact absurd he hne
  | cycle members => intro h; cases h
  | missing m => intro h; cases h

theorem mem_problems {s : Snapshot} {p : Problem} (h : p ∈ s.problems) :
    ∃ d ∈ s.contents.types.entries, d.isResolved = false ∧
      p = problemOf d s.contents.types.entries := by
  obtain ⟨d, hd, rfl⟩ := List.mem_map.1 h
  obtain ⟨hd, hu⟩ := List.mem_filter.1 hd
  exact ⟨d, List.mem_mergeSort.1 hd, by simpa using hu, rfl⟩

/-! ## The step -/

theorem run_resolveDeferred (r : Registry) :
    resolveDeferred.run.run r = (.ok r.drain.2.snapshot.contents.resolveDeferred.result,
      r.drain.2.publish r.drain.2.snapshot.contents.resolveDeferred) := by
  rw [resolveDeferred, run_change]
  rfl

theorem sound_drain (h : r.snapshot.contents.Sound) : r.drain.2.snapshot.contents.Sound := by
  rw [contents_drain]
  generalize r.snapshot.contents = c at h
  induction r.released generalizing c with
  | nil => exact h
  | cons s ss ih => exact ih _ (sound_released h s)

/-- The contents after the step. -/
theorem contents_resolveDeferred (h : r.snapshot.contents.Sound) :
    (Action.after resolveDeferred r).snapshot.contents =
      { r.drain.2.snapshot.contents with
        types := r.drain.2.snapshot.contents.types.restand fun a =>
          settledStanding r.drain.2.snapshot.contents.types a.toDeclaration } := by
  rw [Action.after, run_resolveDeferred]
  exact (contents_publish _ _).trans (after_resolveDeferred (sound_drain h).coherent)

/-- **After the step all types are settled.** -/
theorem settled_after (h : r.snapshot.contents.Sound) :
    (Action.after resolveDeferred r).snapshot.contents.Sound ∧
      IsSettled (Action.after resolveDeferred r).snapshot.contents.types := by
  have hc := contents_resolveDeferred h
  constructor
  · rw [hc, ← after_resolveDeferred (sound_drain h).coherent]
    exact sound_settled (sound_drain h)
  · rw [hc]
    exact isSettled_restand _

/-- A second step returns zero and changes nothing. -/
theorem run_again (h : r.snapshot.contents.Sound) :
    resolveDeferred.run.run (Action.after resolveDeferred r) =
      (.ok 0, Action.after resolveDeferred r) := by
  have hrel : (Action.after resolveDeferred r).released = [] := released_change _ r
  rw [run_resolveDeferred, drain_of_released hrel, resolveDeferred_of_settled (settled_after h).2]
  rfl

/-- **Resolved types stay resolved**, where no scope is queued for release. -/
theorem resolved_after (h : r.snapshot.contents.Sound) (hrel : r.released = [])
    (hd : r.snapshot.type? t = some d) (hres : d.isResolved = true) :
    ∃ d', (Action.after resolveDeferred r).snapshot.type? t = some d' ∧ d'.isResolved = true := by
  have hc := contents_resolveDeferred h
  rw [drain_of_released hrel] at hc
  have hst := h.coherent.settled_of_resolved (Catalog.mem_of_find? hd) hres
  refine ⟨{ d with
    standing := settledStanding r.snapshot.contents.types d.toDeclaration }, ?_, ?_⟩
  · have hd' : r.snapshot.contents.types.find? t = some d := hd
    rw [Snapshot.type?, hc, TypeCatalog.find?_restand, hd', Option.map_some]
  · rw [TypeDefinition.isResolved, ← hst]
    exact hres

/-- **The resolution step is exact, and needs no second one.** From any reachable state it decides
every type by its declared parents; resolved types stay so unless a release is due, the result is
the number of types that it resolves, no problem is that a type has yet to be resolved, and a
second step returns zero and changes nothing. -/
theorem resolveDeferred_resolves (hr : r.Reachable) :
    (∀ t d, (Action.after resolveDeferred r).snapshot.type? t = some d →
      Classified (Action.after resolveDeferred r).snapshot.contents t d.standing) ∧
    (r.released = [] → ∀ t d, r.snapshot.type? t = some d → d.isResolved = true →
      ∃ d', (Action.after resolveDeferred r).snapshot.type? t = some d' ∧
        d'.isResolved = true) ∧
    Action.outcome resolveDeferred r =
      .ok (r.drain.2.snapshot.contents.types.keys.countP fun t =>
        !r.drain.2.snapshot.contents.types.isResolvedAt t &&
          (Action.after resolveDeferred r).snapshot.contents.types.isResolvedAt t) ∧
    (∀ p ∈ (Action.after resolveDeferred r).snapshot.problems, ∀ t u, p ≠ .pending t u) ∧
    Action.outcome resolveDeferred (Action.after resolveDeferred r) = .ok 0 ∧
    Action.after resolveDeferred (Action.after resolveDeferred r) =
      Action.after resolveDeferred r := by
  have hs := hr.sound
  obtain ⟨hs', hset⟩ := settled_after hs
  refine ⟨fun t d hd => settled_classified hs' hset hd,
    fun hrel t d hd hres => resolved_after hs hrel hd hres, ?_, ?_, ?_, ?_⟩
  · have hn := result_resolveDeferred (sound_drain hs).coherent
    rw [after_resolveDeferred (sound_drain hs).coherent] at hn
    rw [Action.outcome, run_resolveDeferred, hn, contents_resolveDeferred hs]
  · intro p hp t u
    obtain ⟨d, hm, hu, rfl⟩ := mem_problems hp
    exact problemOf_ne_pending hset hm hu t u
  · rw [Action.outcome, run_again hs]
  · rw [Action.after, run_again hs]

/-- A run that leaves a loop, a type below the loop, a type whose parent is
missing, and one that can be resolved. -/
def loopRun : List Operation :=
  [.register (.id ⟨"node", "left"⟩) [.inherit (.id ⟨"node", "right"⟩)] .none,
    .register (.id ⟨"node", "right"⟩) [.inherit (.id ⟨"node", "left"⟩)] .none,
    .register (.id ⟨"node", "tail"⟩) [.inherit (.id ⟨"node", "left"⟩)] .none,
    .register (.id ⟨"node", "open"⟩) [.inherit (.id ⟨"node", "lost"⟩)] .none,
    .register (.id ⟨"file", "folder"⟩) [.inherit (.id ⟨"file", "base"⟩)] .none,
    .register (.id ⟨"file", "base"⟩) [] .none]

theorem resolveDeferred_resolves_loop :
    (Action.outcome resolveDeferred (({ name := "nodes" } : Registry).run loopRun)).toOption =
        some 1 ∧
      Action.outcome resolveDeferred
        (Action.after resolveDeferred (({ name := "nodes" } : Registry).run loopRun)) = .ok 0 := by
  obtain ⟨-, -, -, -, hsecond, -⟩ := resolveDeferred_resolves ⟨"nodes", loopRun, rfl⟩
  exact ⟨by decide +kernel, hsecond⟩

end Taxonomy
