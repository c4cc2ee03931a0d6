import Taxonomy.Proofs.Registry.ConstraintIds
import Taxonomy.Proofs.Registry.Constraining

/-!
# Constraints and the history of a run

Constraints are kept in three lists: those on placements, those on values, and the scopes of both.
Only the last one is asked whether an id is taken. The three agree with each other because each of
them agrees with the history: they hold what was added and not purged since, in the order of the
additions.

* `constraintsLeft`: the constraints that a history leaves, with their scopes.
* `mem_constraintsLeft_iff`: they are the ones that no later event purges.
* `step_records`, `records_of_reached`: one event, and a whole run.
* `constraint?_eq_some_iff`: what is found under an id.
* `hasConstraint_iff`: an id is taken as long as its constraint is not purged.
* `constraints_follow_history`: what is known of constraints in every reachable state.
-/

namespace Taxonomy

open Registry

/-! ## The constraints that a history leaves -/

/-- Does an event purge what was registered for a scope? The release of the scope does, and clearing
does; what was registered for no scope is purged by clearing alone. -/
def Event.purges (scope : Option Value) : Event → Bool
  | .released s => scope == some s
  | .cleared => true
  | .registered _ | .extended .. | .settled | .constrained .. => false

/-- **The constraints that a history leaves**, with their scopes: those that no later event purges,
in the order in which they were added. -/
def constraintsLeft : List Event → List (Constraint × Option Value)
  | [] => []
  | .constrained k scope :: es =>
    if es.any (·.purges scope) then constraintsLeft es else (k, scope) :: constraintsLeft es
  | .registered _ :: es | .extended .. :: es | .settled :: es => constraintsLeft es
  | .released _ :: es | .cleared :: es => constraintsLeft es

variable {es fs : List Event} {ev : Event} {k : Constraint} {s : Option Value} {c c' : Contents}

/-- **What comes later** purges some of the constraints and adds others. -/
theorem constraintsLeft_append (es fs : List Event) : constraintsLeft (es ++ fs) =
    (constraintsLeft es).filter (fun p => !fs.any (·.purges p.2)) ++ constraintsLeft fs := by
  induction es with
  | nil => rfl
  | cons ev es ih =>
    cases ev with
    | constrained k s =>
      rw [List.cons_append, constraintsLeft, constraintsLeft, ih, List.any_append]
      by_cases hes : es.any (·.purges s) = true
      · rw [hes, Bool.true_or, if_pos rfl, if_pos rfl]
      · rw [Bool.eq_false_iff.2 hes, Bool.false_or, if_neg Bool.false_ne_true, List.filter_cons]
        cases fs.any (·.purges s) <;> rfl
    | registered d => exact ih
    | extended t e => exact ih
    | settled => exact ih
    | released s => exact ih
    | cleared => exact ih

/-- **A constraint is left if and only if** it was added and no later event purges it, by induction
on the history. -/
theorem mem_constraintsLeft_iff : (k, s) ∈ constraintsLeft es ↔
    ∃ before after, es = before ++ .constrained k s :: after ∧
      ∀ ev ∈ after, ev.purges s = false := by
  induction es with
  | nil => simp [constraintsLeft]
  | cons ev es ih =>
    -- the addition is the first event, or it comes later
    have hsplit : (∃ before after, ev :: es = before ++ .constrained k s :: after ∧
          ∀ ev ∈ after, ev.purges s = false) ↔
        ev = .constrained k s ∧ (∀ ev ∈ es, ev.purges s = false) ∨
          (k, s) ∈ constraintsLeft es := by
      rw [ih]
      constructor
      · rintro ⟨before, after, heq, hafter⟩
        cases before with
        | nil =>
          obtain ⟨rfl, rfl⟩ := List.cons.inj heq
          exact .inl ⟨rfl, hafter⟩
        | cons ev' before =>
          obtain ⟨rfl, rfl⟩ := List.cons.inj heq
          exact .inr ⟨before, after, rfl, hafter⟩
      · rintro (⟨rfl, hafter⟩ | ⟨before, after, rfl, hafter⟩)
        · exact ⟨[], es, rfl, hafter⟩
        · exact ⟨ev :: before, after, rfl, hafter⟩
    rw [hsplit]
    cases ev with
    | constrained k' s' =>
      rw [constraintsLeft, Event.constrained.injEq]
      split
      · next hpurged =>
        have hnot : ¬ ((k' = k ∧ s' = s) ∧ ∀ ev ∈ es, ev.purges s = false) := by
          rintro ⟨⟨-, rfl⟩, hall⟩
          obtain ⟨ev, hev, hp⟩ := List.any_eq_true.1 hpurged
          rw [hall ev hev] at hp
          cases hp
        exact (or_iff_right hnot).symm
      · next hkept =>
        have hall : ∀ ev ∈ es, ev.purges s' = false := by
          intro ev hev
          exact Bool.eq_false_iff.2 fun hp => hkept (List.any_eq_true.2 ⟨ev, hev, hp⟩)
        rw [List.mem_cons, Prod.mk.injEq]
        refine or_congr_left ⟨?_, fun h => ⟨h.1.1.symm, h.1.2.symm⟩⟩
        rintro ⟨rfl, rfl⟩
        exact ⟨⟨rfl, rfl⟩, hall⟩
    | registered d => simp [constraintsLeft]
    | extended t e => simp [constraintsLeft]
    | settled => simp [constraintsLeft]
    | released s => simp [constraintsLeft]
    | cleared => simp [constraintsLeft]

/-! ## The three lists -/

/-- **The three lists of constraints hold what a history leaves.** -/
structure Contents.Records (c : Contents) (es : List Event) : Prop where
  placement : c.placement = (constraintsLeft es).filterMap (·.1.placement?)
  validation : c.validation = (constraintsLeft es).filterMap (·.1.validation?)
  scopes : c.constraintScopes = (constraintsLeft es).map fun p => (p.1.id, p.2)

/-- An event that neither adds a constraint nor purges one. -/
theorem constraintsLeft_quiet (hpurge : ∀ s, ev.purges s = false)
    (hadd : constraintsLeft [ev] = []) : constraintsLeft (es ++ [ev]) = constraintsLeft es := by
  rw [constraintsLeft_append, hadd, List.append_nil]
  exact List.filter_eq_self.2 fun p _ => by simp [hpurge]

theorem constraintsLeft_constrained (es : List Event) (k : Constraint) (s : Option Value) :
    constraintsLeft (es ++ [.constrained k s]) = constraintsLeft es ++ [(k, s)] := by
  have hkept : (constraintsLeft es).filter
      (fun p => !([Event.constrained k s].any (·.purges p.2))) = constraintsLeft es :=
    List.filter_eq_self.2 fun p _ => by simp [Event.purges]
  rw [constraintsLeft_append, hkept]
  rfl

theorem constraintsLeft_released (es : List Event) (s : Value) :
    constraintsLeft (es ++ [.released s]) =
      (constraintsLeft es).filter (fun p => !(p.2 == some s)) := by
  rw [constraintsLeft_append]
  simp [constraintsLeft, Event.purges]

theorem constraintsLeft_cleared (es : List Event) : constraintsLeft (es ++ [.cleared]) = [] := by
  rw [constraintsLeft_append]
  simp [constraintsLeft, Event.purges]

/-- Leaving out among the entries of one kind is leaving out among all entries. -/
theorem filter_filterMap {α β : Type} {f : α → Option β} {p : β → Bool} {q : α → Bool} {xs : List α}
    (h : ∀ x ∈ xs, ∀ y, f x = some y → p y = q x) :
    (xs.filterMap f).filter p = (xs.filter q).filterMap f := by
  rw [List.filter_filterMap, List.filterMap_filter]
  refine List.filterMap_congr fun x hx => ?_
  cases hf : f x with
  | none => simp
  | some y => simp [Option.filter, h x hx y hf]

/-- Every constraint has an id of its own, so that the ids of a scope tell which constraints belong
to the scope. -/
theorem contains_constraintsOf (hrec : c.Records es) (hdist : c.holdings.Distinct) (s : Value)
    {p : Constraint × Option Value} (hp : p ∈ constraintsLeft es) :
    (c.holdings.constraintsOf s).contains p.1.id = (p.2 == some s) := by
  have hmem : (p.1.id, p.2) ∈ c.constraintScopes := by
    rw [hrec.scopes]
    exact List.mem_map_of_mem hp
  rw [Bool.eq_iff_iff, List.contains_iff_mem, beq_iff_eq, Holdings.constraintsOf]
  constructor
  · intro h
    obtain ⟨q, hq, hid⟩ := List.mem_map.1 h
    obtain ⟨hq, hscope⟩ := List.mem_filter.1 hq
    have hsame : q = (p.1.id, p.2) := List.inj_on_of_nodup_map hdist.nodup hq hmem hid
    rw [hsame] at hscope
    exact beq_iff_eq.1 hscope
  · intro h
    have hin : (p.1.id, p.2) ∈ c.holdings.constraintScopes.filter (·.2 == some s) :=
      List.mem_filter.2 ⟨hmem, beq_iff_eq.2 h⟩
    exact List.mem_map.2 ⟨_, hin, rfl⟩

theorem placement?_id {k : Constraint} {k' : PlacementConstraint} (h : k.placement? = some k') :
    k'.id = k.id := by
  cases k with
  | placement k => rw [← Option.some.inj h]; rfl
  | validation k => cases h

theorem validation?_id {k : Constraint} {k' : ValidationConstraint} (h : k.validation? = some k') :
    k'.id = k.id := by
  cases k with
  | placement k => cases h
  | validation k => rw [← Option.some.inj h]; rfl

/-- A release takes out of each list what the history purges. -/
theorem records_released (hrec : c.Records es) (hdist : c.holdings.Distinct) {s : Value}
    (h : c'.holdings = c.holdings.without s) : c'.Records (es ++ [.released s]) := by
  have hkeep : ∀ p ∈ constraintsLeft es,
      (!(c.holdings.constraintsOf s).contains p.1.id) = !(p.2 == some s) := by
    intro p hp
    rw [contains_constraintsOf hrec hdist s hp]
  have hplacement : c'.placement =
      c.placement.filter (!(c.holdings.constraintsOf s).contains ·.id) :=
    congrArg Holdings.placement h
  have hvalidation : c'.validation =
      c.validation.filter (!(c.holdings.constraintsOf s).contains ·.id) :=
    congrArg Holdings.validation h
  have hscopes : c'.constraintScopes =
      c.constraintScopes.filter (!(c.holdings.constraintsOf s).contains ·.1) :=
    congrArg Holdings.constraintScopes h
  refine ⟨?_, ?_, ?_⟩
  · rw [hplacement, hrec.placement, constraintsLeft_released]
    refine filter_filterMap fun p hp k hk => ?_
    rw [placement?_id hk, hkeep p hp]
  · rw [hvalidation, hrec.validation, constraintsLeft_released]
    refine filter_filterMap fun p hp k hk => ?_
    rw [validation?_id hk, hkeep p hp]
  · rw [hscopes, hrec.scopes, constraintsLeft_released, List.filter_map]
    exact congrArg _ (List.filter_congr hkeep)

/-- A constraint that is added goes to the end of its list. -/
theorem records_constrained (hrec : c.Records es)
    (h : c'.holdings = c.holdings.addConstraint k s) : c'.Records (es ++ [.constrained k s]) := by
  have hplacement := congrArg Holdings.placement h
  have hvalidation := congrArg Holdings.validation h
  have hscopes := congrArg Holdings.constraintScopes h
  refine ⟨?_, ?_, ?_⟩
  · rw [constraintsLeft_constrained, List.filterMap_append, ← hrec.placement]
    cases k with
    | placement k => exact hplacement
    | validation k => exact hplacement.trans (List.append_nil _).symm
  · rw [constraintsLeft_constrained, List.filterMap_append, ← hrec.validation]
    cases k with
    | placement k => exact hvalidation.trans (List.append_nil _).symm
    | validation k => exact hvalidation
  · rw [constraintsLeft_constrained, List.map_append, ← hrec.scopes]
    cases k with
    | placement k => exact hscopes
    | validation k => exact hscopes

/-- **One event**: the lists go on with the history. -/
theorem step_records (hrec : c.Records es) (hdist : c.holdings.Distinct)
    (h : c'.holdings = ev.act c.holdings) : c'.Records (es ++ [ev]) := by
  have hquiet : c'.placement = c.placement → c'.validation = c.validation →
      c'.constraintScopes = c.constraintScopes → (∀ s, ev.purges s = false) →
      constraintsLeft [ev] = [] → c'.Records (es ++ [ev]) := by
    intro hplacement hvalidation hscopes hpurge hadd
    constructor <;> rw [constraintsLeft_quiet hpurge hadd]
    · exact hplacement.trans hrec.placement
    · exact hvalidation.trans hrec.validation
    · exact hscopes.trans hrec.scopes
  have hplacement := congrArg Holdings.placement h
  have hvalidation := congrArg Holdings.validation h
  have hscopes := congrArg Holdings.constraintScopes h
  cases ev with
  | registered d => exact hquiet hplacement hvalidation hscopes (fun _ => rfl) rfl
  | extended t e => exact hquiet hplacement hvalidation hscopes (fun _ => rfl) rfl
  | settled => exact hquiet hplacement hvalidation hscopes (fun _ => rfl) rfl
  | constrained k s => exact records_constrained hrec h
  | released s => exact records_released hrec hdist h
  | cleared =>
    constructor <;> rw [constraintsLeft_cleared]
    · exact hplacement
    · exact hvalidation
    · exact hscopes

/-- **A whole run**: the lists hold what the history leaves. -/
theorem records_of_reached (h : Reached es c) : c.Records es := by
  induction h with
  | start => exact ⟨rfl, rfl, rfl⟩
  | next hr hs ih =>
    have hact := step_holdings (reached_sound hr) hs
    exact step_records ih (distinct_of_reached hr) hact

/-! ## What is found under an id -/

/-- The constraints of both kinds, those on placements first. -/
def Contents.constraints (c : Contents) : List Constraint :=
  c.placement.map .placement ++ c.validation.map .validation

theorem ids_constraints (c : Contents) : c.constraints.map (·.id) =
    c.placement.map (·.id) ++ c.validation.map (·.id) := by
  rw [Contents.constraints, List.map_append, List.map_map, List.map_map]
  rfl

theorem constraint?_eq_find? (c : Contents) (id : String) :
    c.constraint? id = c.constraints.find? (·.id == id) := by
  rw [Contents.constraint?, Contents.constraints, List.find?_append, List.find?_map, List.find?_map]
  change _ = ((c.placement.find? (·.id == id)).map Constraint.placement).or
    ((c.validation.find? (·.id == id)).map Constraint.validation)
  cases c.placement.find? (·.id == id) <;> rfl

/-- **What is found under an id** is the one constraint that bears it: the constraints make up a
catalogue under their ids. -/
theorem constraint?_eq_some_iff (hn : (c.constraints.map (·.id)).Nodup) {id : String} :
    c.constraint? id = some k ↔ k ∈ c.constraints ∧ k.id = id := by
  rw [constraint?_eq_find?]
  exact Catalog.find?_eq_some_iff (c := ⟨c.constraints, hn⟩)

/-- Nothing is found under an id that no constraint bears. -/
theorem constraint?_eq_none_iff {id : String} :
    c.constraint? id = none ↔ id ∉ c.constraints.map (·.id) := by
  rw [constraint?_eq_find?, List.find?_eq_none, List.mem_map]
  simp

/-! ## When an id is taken -/

/-- **An id is taken** as long as a constraint of that id was added and not purged since. -/
theorem hasConstraint_iff (h : c.Records es) (id : String) : c.hasConstraint id = true ↔
    ∃ before k s after, es = before ++ .constrained k s :: after ∧ k.id = id ∧
      ∀ ev ∈ after, ev.purges s = false := by
  rw [Contents.hasConstraint, h.scopes, List.any_map, List.any_eq_true]
  constructor
  · rintro ⟨⟨k, s⟩, hmem, hid⟩
    obtain ⟨before, after, hes, hkept⟩ := mem_constraintsLeft_iff.1 hmem
    exact ⟨before, k, s, after, hes, beq_iff_eq.1 hid, hkept⟩
  · rintro ⟨before, k, s, after, hes, hid, hkept⟩
    exact ⟨(k, s), mem_constraintsLeft_iff.2 ⟨before, after, hes, hkept⟩, beq_iff_eq.2 hid⟩

/-- **What is known of constraints follows a history.** -/
structure Registry.ConstraintsFollow (r : Registry) (es : List Event) : Prop where
  /-- The constraints of both kinds have different ids. -/
  nodup : (r.snapshot.contents.placement.map (·.id) ++
    r.snapshot.contents.validation.map (·.id)).Nodup
  /-- Their ids are those whose scopes are known. -/
  keys : (r.snapshot.contents.placement.map (·.id) ++
    r.snapshot.contents.validation.map (·.id)).Perm
      (r.snapshot.contents.constraintScopes.map (·.1))
  /-- Each list holds what the history leaves, in the order of the additions. -/
  records : r.snapshot.contents.Records es
  /-- Under an id the one constraint is found that bears it. -/
  found : ∀ id k, r.snapshot.contents.constraint? id = some k ↔
    k ∈ r.snapshot.contents.constraints ∧ k.id = id
  /-- Nothing is found under any other id. -/
  missing : ∀ id, r.snapshot.contents.constraint? id = none ↔
    id ∉ r.snapshot.contents.constraintScopes.map (·.1)
  /-- A constraint is added exactly if every earlier one of its id was purged after its addition;
  scopes that are queued are released before. -/
  granted : ∀ k scope, Action.outcome (addConstraint (.constraint k) scope) r = .ok () ↔
    ∀ before k' s after, es ++ r.drained = before ++ .constrained k' s :: after → k'.id = k.id →
      ∃ ev ∈ after, ev.purges s = true
  /-- Any other constraint is refused because of its id. -/
  refused : ∀ k scope, Action.outcome (addConstraint (.constraint k) scope) r ≠ .ok () →
    Action.outcome (addConstraint (.constraint k) scope) r = .error (.constraintTaken k.id)

/-- What a constraint comes to is whether its id is taken, once the queued scopes are released. -/
theorem outcome_addConstraint (r : Registry) (k : Constraint) (scope : ScopeRef) :
    Action.outcome (addConstraint (.constraint k) scope) r =
      if r.drain.2.snapshot.contents.hasConstraint k.id then .error (.constraintTaken k.id)
      else .ok () := by
  rw [Action.outcome, run_addConstraint_constraint]
  split <;> rfl

/-- **The ids of constraints stay unique across both kinds**, and an id is free again exactly when
its constraint has been purged. In every state that a run leads to, the ids of all constraints
differ and are those whose scopes are known; each list holds what was added and not purged since, in
the order of the additions; and a constraint is granted if and only if every earlier one of its id
was purged by a release of its scope or by clearing. -/
theorem constraints_follow_history (name : String) (ops : List Operation) :
    (({ name } : Registry).run ops).ConstraintsFollow (({ name } : Registry).history ops) := by
  have hreached := reached_run name ops
  generalize ({ name } : Registry).history ops = es at hreached ⊢
  generalize ({ name } : Registry).run ops = r at hreached ⊢
  have hdist := distinct_of_reached hreached
  have hnodup : (r.snapshot.contents.constraints.map (·.id)).Nodup := by
    rw [ids_constraints]
    exact hdist.ids.nodup_iff.2 hdist.nodup
  -- the release of the queued scopes goes on with the history
  have hdrained := records_of_reached (reached_drain hreached)
  refine
    { nodup := by rwa [← ids_constraints]
      keys := hdist.ids
      records := records_of_reached hreached
      found := fun id k => constraint?_eq_some_iff hnodup
      missing := fun id => ?_
      granted := fun k scope => ?_
      refused := fun k scope hne => ?_ }
  · rw [constraint?_eq_none_iff, ids_constraints]
    exact not_congr hdist.ids.mem_iff
  · rw [outcome_addConstraint]
    have htaken := hasConstraint_iff hdrained k.id
    constructor
    · intro hok before k' s after hes hid
      by_contra hnone
      have hkept : ∀ ev ∈ after, ev.purges s = false := by
        intro ev hev
        exact Bool.eq_false_iff.2 fun hp => hnone ⟨ev, hev, hp⟩
      rw [if_pos (htaken.2 ⟨before, k', s, after, hes, hid, hkept⟩)] at hok
      cases hok
    · intro hpurged
      rw [if_neg]
      intro hhas
      obtain ⟨before, k', s, after, hes, hid, hkept⟩ := htaken.1 hhas
      obtain ⟨ev, hev, hp⟩ := hpurged before k' s after hes hid
      rw [hkept ev hev] at hp
      cases hp
  · rw [outcome_addConstraint] at hne ⊢
    split at hne
    · next h => rw [if_pos h]
    · exact absurd rfl hne

end Taxonomy
