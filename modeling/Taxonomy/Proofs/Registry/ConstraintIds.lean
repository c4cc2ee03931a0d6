import Mathlib.Data.List.Nodup
import Taxonomy.Proofs.Registry.Holdings

/-!
# The ids of constraints

A constraint is granted only under an id that no other one bears, of whichever kind it is. So the
ids of all constraints differ, after any series of changes, and they are the ids whose scopes are
known.

* `Holdings.Distinct`: every constraint has an id of its own.
* `distinct_act`: what one event does.
* `Registry.Reachable.distinct`: what holds in every reachable state.
-/

namespace Taxonomy

/-- **Every constraint has an id of its own**: the ids of both kinds together are those whose scopes
are known, each of them once. -/
structure Holdings.Distinct (h : Holdings) : Prop where
  ids : (h.placement.map (·.id) ++ h.validation.map (·.id)).Perm (h.constraintScopes.map (·.1))
  nodup : (h.constraintScopes.map (·.1)).Nodup

variable {h : Holdings} {c c' : Contents} {ev : Event} {es : List Event}

/-- One more constraint, under an id that is not taken. -/
theorem distinct_addConstraint (hd : h.Distinct) {k : Constraint} {scope : Option Value}
    (hnew : k.id ∉ h.constraintScopes.map (·.1)) : (h.addConstraint k scope).Distinct := by
  have hids : (h.placement.map (·.id) ++ h.validation.map (·.id) ++ [k.id]).Perm
      (h.constraintScopes.map (·.1) ++ [k.id]) := hd.ids.append_right [k.id]
  have hnodup : (h.constraintScopes.map (·.1) ++ [k.id]).Nodup := by
    rw [List.perm_append_comm.nodup_iff, List.singleton_append, List.nodup_cons]
    exact ⟨hnew, hd.nodup⟩
  cases k with
  | placement k =>
    refine ⟨?_, by simpa [Holdings.addConstraint] using hnodup⟩
    simp only [Holdings.addConstraint, List.map_append, List.map_cons, List.map_nil]
    -- the new id stands between the two kinds
    refine List.Perm.trans ?_ hids
    rw [List.append_assoc, List.append_assoc]
    exact List.perm_append_comm.append_left _
  | validation k =>
    refine ⟨?_, by simpa [Holdings.addConstraint] using hnodup⟩
    simpa [Holdings.addConstraint, Constraint.id] using hids

/-- What is left when a scope is taken out. -/
theorem distinct_without (hd : h.Distinct) (s : Value) : (h.without s).Distinct := by
  have hmap {α : Type} (f : α → String) (xs : List α) :
      (xs.filter fun x => !(h.constraintsOf s).contains (f x)).map f =
        (xs.map f).filter fun id => !(h.constraintsOf s).contains id := by
    rw [List.filter_map]
    rfl
  refine ⟨?_, ?_⟩
  · simp only [Holdings.without, hmap, ← List.filter_append]
    exact hd.ids.filter _
  · simp only [Holdings.without, hmap]
    exact hd.nodup.filter _

/-- **An event that is granted** leaves every constraint with an id of its own. -/
theorem distinct_act (hd : h.Distinct) (ha : h.allows ev = true) : (ev.act h).Distinct := by
  cases ev with
  | registered d => exact ⟨hd.ids, hd.nodup⟩
  | extended t e => exact ⟨hd.ids, hd.nodup⟩
  | settled => exact hd
  | constrained k scope =>
    refine distinct_addConstraint hd fun hm => ?_
    obtain ⟨p, hp, hid⟩ := List.mem_map.1 hm
    rw [Holdings.allows, Bool.not_eq_true', List.any_eq_false] at ha
    exact ha p hp (beq_iff_eq.2 hid)
  | released scope => exact distinct_without hd scope
  | cleared => exact ⟨.refl _, List.nodup_nil⟩

/-- Whatever happens has been granted. -/
theorem step_allows (hc : c.Sound) (hs : Step c ev c') : c.holdings.allows ev = true := by
  cases hs with
  | registered hok =>
    obtain ⟨hnone, -⟩ := register_ok hok
    rw [Holdings.allows]
    exact Option.isNone_iff_eq_none.2 hnone
  | extended hok =>
    obtain ⟨⟨a, ha⟩, -⟩ := commit_ok hc.coherent hok
    obtain ⟨reg, hreg, -⟩ := hc.exists_registration ha
    rw [Holdings.allows]
    exact Option.isSome_iff_exists.2 ⟨reg, hreg⟩
  | settled => rfl
  | @constrained k scope ch hok =>
    rw [Contents.addConstraint] at hok
    split at hok
    · cases hok
    · next hfree =>
      rw [Holdings.allows, Bool.not_eq_true']
      exact Bool.eq_false_iff.2 hfree
  | released scope => rfl
  | cleared => rfl

/-- **After any series of events** every constraint has an id of its own. -/
theorem distinct_of_reached (hr : Reached es c) : c.holdings.Distinct := by
  induction hr with
  | start => exact ⟨.refl _, List.nodup_nil⟩
  | @next es ev c c' hr hs ih =>
    have hsound := reached_sound hr
    rw [step_holdings hsound hs]
    exact distinct_act ih (step_allows hsound hs)

/-- **In every reachable state** every constraint has an id of its own. -/
theorem Registry.Reachable.distinct {r : Registry} (h : r.Reachable) :
    r.snapshot.contents.holdings.Distinct := by
  obtain ⟨name, ops, rfl⟩ := h
  exact distinct_of_reached (reached_run name ops)

/-- A constraint on placements is known by its id. -/
theorem Holdings.Distinct.eq_of_placement (hd : h.Distinct) {k k' : PlacementConstraint}
    (hk : k ∈ h.placement) (hk' : k' ∈ h.placement) (hid : k.id = k'.id) : k = k' := by
  have hnodup := (List.nodup_append.1 (hd.ids.nodup_iff.2 hd.nodup)).1
  exact List.inj_on_of_nodup_map hnodup hk hk' hid

end Taxonomy
