import Taxonomy.Proofs.Registry.Steady

/-!
# Adding constraints

A constraint is added behind those that are there, for the scope that its registration belongs to,
and nothing else of the registry changes but its generation. A series of constraints is added up to
the first one that is refused.

* `Registry.withConstraints`: a registry with more constraints.
* `run_addConstraint_constraint`: what one constraint comes to.
* `run_addConstraints_of_idle`: what a series comes to where no scope is queued.
* `addConstraints_error`: what a series comes to that is refused.
-/

namespace Taxonomy

open Registry

/-- The constraint, if it is one on placements. -/
def Constraint.placement? : Constraint → Option PlacementConstraint
  | placement k => some k
  | validation _ => none

/-- The constraint, if it is one on values. -/
def Constraint.validation? : Constraint → Option ValidationConstraint
  | placement _ => none
  | validation k => some k

/-- **Contents with more constraints**, in order, all of them for one scope. -/
def Contents.withConstraints (c : Contents) (ks : List Constraint) (scope : Option Value) :
    Contents :=
  { c with
    placement := c.placement ++ ks.filterMap (·.placement?)
    validation := c.validation ++ ks.filterMap (·.validation?)
    constraintScopes := c.constraintScopes ++ ks.map fun k => (k.id, scope) }

/-- **A registry with more constraints**; each of them makes a generation. -/
def Registry.withConstraints (r : Registry) (ks : List Constraint) (scope : Option Value) :
    Registry :=
  { r with
    snapshot :=
      { generation := r.generation + ks.length
        contents := r.snapshot.contents.withConstraints ks scope } }

/-- Is there a constraint of an id? -/
def Contents.hasConstraint (c : Contents) (id : String) : Bool := c.constraintScopes.any (·.1 == id)

variable {r : Registry} {k : Constraint} {ks ks' : List Constraint} {s : Option Value}

/-! ## Registries with more constraints -/

theorem mem_filterMap_placement? {k : PlacementConstraint} :
    k ∈ ks.filterMap (·.placement?) ↔ .placement k ∈ ks := by
  rw [List.mem_filterMap]
  constructor
  · rintro ⟨c, hc, hck⟩
    cases c with
    | placement k' => rwa [← Option.some.inj hck]
    | validation k' => cases hck
  · exact fun h => ⟨_, h, rfl⟩

theorem mem_filterMap_validation? {k : ValidationConstraint} :
    k ∈ ks.filterMap (·.validation?) ↔ .validation k ∈ ks := by
  rw [List.mem_filterMap]
  constructor
  · rintro ⟨c, hc, hck⟩
    cases c with
    | placement k' => cases hck
    | validation k' => rwa [← Option.some.inj hck]
  · exact fun h => ⟨_, h, rfl⟩

@[simp] theorem withConstraints_nil (r : Registry) (s : Option Value) :
    r.withConstraints [] s = r := by
  simp [withConstraints, Contents.withConstraints, generation]

/-- More constraints in two rounds are more constraints at once. -/
theorem withConstraints_append (r : Registry) (ks ks' : List Constraint) (s : Option Value) :
    (r.withConstraints ks s).withConstraints ks' s = r.withConstraints (ks ++ ks') s := by
  simp [withConstraints, Contents.withConstraints, generation, Nat.add_assoc]

theorem hasConstraint_withConstraints (c : Contents) (ks : List Constraint) (s : Option Value)
    (id : String) : (c.withConstraints ks s).hasConstraint id =
      (c.hasConstraint id || ks.any (·.id == id)) := by
  rw [Contents.hasConstraint, Contents.withConstraints, List.any_append, List.any_map]
  rfl

@[simp] theorem released_withConstraints : (r.withConstraints ks s).released = r.released := rfl

theorem effectiveScope_withConstraints (scope : ScopeRef) :
    (r.withConstraints ks s).effectiveScope scope = r.effectiveScope scope := rfl

/-- Releases of queued scopes neither depend on the entered scopes nor change them. -/
theorem drain_withScopes (r : Registry) (scopes : List (Option Value)) :
    ({ r with scopes } : Registry).drain.2 = { r.drain.2 with scopes } := by
  have hpublish (r : Registry) (ch : Change Nat) :
      ({ r with scopes } : Registry).publish ch = { r.publish ch with scopes } := by
    unfold publish
    cases ch.update <;> rfl
  have hsteps (release : Nat × Registry → Value → Nat × Registry)
      (h : ∀ q s, release (q.1, { q.2 with scopes }) s =
        ((release q s).1, { (release q s).2 with scopes })) (ss : List Value)
      (q : Nat × Registry) :
      (ss.foldl release (q.1, { q.2 with scopes })).2 = { (ss.foldl release q).2 with scopes } := by
    induction ss generalizing q with
    | nil => rfl
    | cons s ss ih =>
      rw [List.foldl_cons, List.foldl_cons, h]
      exact ih _
  refine hsteps _ (fun q s => ?_) r.released (0, { r with released := [] })
  simp only [releaseNow, hpublish]

theorem scopes_drain (r : Registry) : r.drain.2.scopes = r.scopes :=
  congrArg (·.scopes) (drain_withScopes r r.scopes)

theorem effectiveScope_drain (r : Registry) (scope : ScopeRef) :
    r.drain.2.effectiveScope scope = r.effectiveScope scope := by
  rw [effectiveScope, effectiveScope, currentScope, currentScope, scopes_drain]

/-! ## One constraint -/

/-- A constraint under an id of its own is published as one more. -/
theorem addConstraint_of_not_hasConstraint {c : Contents} (h : c.hasConstraint k.id = false) :
    c.addConstraint k s = .ok ⟨(), some (c.withConstraints [k] s, [])⟩ := by
  rw [Contents.hasConstraint] at h
  rw [Contents.addConstraint, h]
  cases k with
  | placement k =>
    simp [Contents.withConstraints, Constraint.placement?, Constraint.validation?]
    rfl
  | validation k =>
    simp [Contents.withConstraints, Constraint.placement?, Constraint.validation?]
    rfl

theorem addConstraint_of_hasConstraint {c : Contents} (h : c.hasConstraint k.id = true) :
    c.addConstraint k s = .error (.constraintTaken k.id) := by
  rw [Contents.hasConstraint] at h
  rw [Contents.addConstraint, h]
  rfl

/-- **What one constraint comes to**, once the queued scopes are released: it is added, or refused
because its id is taken. -/
theorem run_addConstraint_constraint (k : Constraint) (scope : ScopeRef) (r : Registry) :
    (addConstraint (.constraint k) scope).run.run r =
      if r.drain.2.snapshot.contents.hasConstraint k.id then
        (.error (.constraintTaken k.id), r.drain.2)
      else (.ok (), r.drain.2.withConstraints [k] (r.effectiveScope scope)) := by
  rw [run_addConstraint, ConstraintRef.resolve]
  simp only [pure, Except.pure]
  rw [run_change]
  cases h : r.drain.2.snapshot.contents.hasConstraint k.id with
  | true => rw [addConstraint_of_hasConstraint h, if_pos rfl]
  | false =>
    rw [addConstraint_of_not_hasConstraint h, if_neg Bool.false_ne_true]
    rfl

/-- **A constraint under an id of its own is added** where no scope is queued. -/
theorem run_addConstraint_of_idle (hidle : r.released = [])
    (hfree : r.snapshot.contents.hasConstraint k.id = false) (scope : ScopeRef) :
    (addConstraint (.constraint k) scope).run.run r =
      (.ok (), r.withConstraints [k] (r.effectiveScope scope)) := by
  rw [run_addConstraint_constraint, drain_of_released hidle, hfree, if_neg Bool.false_ne_true]

theorem perform_addConstraint_of_idle (hidle : r.released = [])
    (hfree : r.snapshot.contents.hasConstraint k.id = false) (scope : ScopeRef) :
    r.perform (.addConstraint (.constraint k) scope) =
      r.withConstraints [k] (r.effectiveScope scope) := by
  rw [perform, Action.after, run_addConstraint_of_idle hidle hfree]

theorem run_addConstraint_value (v : Value) (scope : ScopeRef) (r : Registry) :
    (addConstraint (.value v) scope).run.run r = (.error (.notAConstraint v), r) := by
  rw [run_addConstraint]
  rfl

/-! ## A series of constraints -/

/-- The first constraint of a series, and then the others. -/
theorem run_addConstraints_cons (k : ConstraintRef) (ks : List ConstraintRef) (scope : ScopeRef)
    (r : Registry) :
    (addConstraints (k :: ks) scope).run.run r =
      match (addConstraint k scope).run.run r with
      | (.ok _, r') => match (addConstraints ks scope).run.run r' with
        | (.ok n, r'') => (.ok (n + 1), r'')
        | (.error f, r'') => (.error f, r'')
      | (.error f, r') => (.error f, r') := by
  rw [addConstraints, List.forIn_cons, bind_assoc, bind_assoc, run_bind]
  rcases (addConstraint k scope).run.run r with ⟨f | -, r'⟩
  · rfl
  · simp only [pure_bind]
    rw [addConstraints, run_bind, run_bind]
    -- the others are added, or one of them is refused
    rcases (forIn ks _ _ : Action _).run.run r' with ⟨f | -, r''⟩
    · rfl
    · rfl

/-- **What a series comes to** where no scope is queued: all of it is added, or what comes before
the first constraint that is refused. -/
theorem run_addConstraints_of_idle (hidle : r.released = []) (refs : List ConstraintRef)
    (scope : ScopeRef) :
    (∃ added, refs = added.map .constraint ∧ (addConstraints refs scope).run.run r =
      (.ok refs.length, r.withConstraints added (r.effectiveScope scope))) ∨
    ∃ added k behind f, refs = added.map .constraint ++ k :: behind ∧
      Action.outcome (addConstraint k scope)
        (r.withConstraints added (r.effectiveScope scope)) = .error f ∧
      (addConstraints refs scope).run.run r =
        (.error f, r.withConstraints added (r.effectiveScope scope)) := by
  induction refs generalizing r with
  | nil => exact .inl ⟨[], rfl, by rw [withConstraints_nil]; rfl⟩
  | cons k refs ih =>
    rw [run_addConstraints_cons]
    cases k with
    | value v =>
      refine .inr ⟨[], .value v, refs, .notAConstraint v, rfl, ?_, ?_⟩
      · rw [withConstraints_nil, Action.outcome, run_addConstraint_value]
      · rw [withConstraints_nil, run_addConstraint_value]
    | constraint k =>
      cases htaken : r.snapshot.contents.hasConstraint k.id with
      | true =>
        have hrun := run_addConstraint_constraint k scope r
        rw [drain_of_released hidle, htaken, if_pos rfl] at hrun
        refine .inr ⟨[], .constraint k, refs, .constraintTaken k.id, rfl, ?_, ?_⟩
        · rw [withConstraints_nil, Action.outcome, hrun]
        · rw [withConstraints_nil, hrun]
      | false =>
        rw [run_addConstraint_of_idle hidle htaken]
        -- the others go on from the registry with this constraint
        rcases ih (r := r.withConstraints [k] (r.effectiveScope scope)) hidle with
          ⟨added, rfl, hrest⟩ | ⟨added, k', behind, f, rfl, hk', hrest⟩
        · rw [effectiveScope_withConstraints, withConstraints_append] at hrest
          exact .inl ⟨k :: added, rfl, by simp only [hrest]; rfl⟩
        · rw [effectiveScope_withConstraints, withConstraints_append] at hk' hrest
          exact .inr ⟨k :: added, k', behind, f, rfl, hk', by simp only [hrest]; rfl⟩

/-- **A series that is refused** has been added up to one of its constraints, and this one is
refused. Queued scopes are released before the first one, if that is a constraint at all. -/
theorem addConstraints_error {refs : List ConstraintRef} {scope : ScopeRef} {f : Fault}
    (h : Action.outcome (addConstraints refs scope) r = .error f) :
    ∃ added k behind q, refs = added.map .constraint ++ k :: behind ∧
      (q = r ∨ q = Action.after releasePending r) ∧
      Action.outcome (addConstraint k scope)
        (q.withConstraints added (r.effectiveScope scope)) = .error f ∧
      Action.after (addConstraints refs scope) r =
        q.withConstraints added (r.effectiveScope scope) := by
  cases refs with
  | nil => cases h
  | cons k refs =>
    cases k with
    | value v =>
      have hrun : (addConstraints (.value v :: refs) scope).run.run r =
          (.error (.notAConstraint v), r) := by
        rw [run_addConstraints_cons, run_addConstraint_value]
      rw [Action.outcome, hrun] at h
      obtain rfl := Except.error.inj h
      refine ⟨[], .value v, refs, r, rfl, .inl rfl, ?_, ?_⟩
      · rw [withConstraints_nil, Action.outcome, run_addConstraint_value]
      · rw [withConstraints_nil, Action.after, hrun]
    | constraint k =>
      -- the first constraint finds the registry after the releases
      have hrun : (addConstraints (.constraint k :: refs) scope).run.run r =
          (addConstraints (.constraint k :: refs) scope).run.run r.drain.2 := by
        rw [run_addConstraints_cons, run_addConstraints_cons, run_addConstraint_constraint,
          run_addConstraint_constraint, drain_of_released (released_drain r), effectiveScope_drain]
      have hidle := run_addConstraints_of_idle (released_drain r) (.constraint k :: refs) scope
      rw [← hrun, effectiveScope_drain] at hidle
      rw [Action.outcome] at h
      rcases hidle with ⟨added, -, hok⟩ | ⟨added, k', behind, f', hsplit, hk', herr⟩
      · rw [hok] at h
        cases h
      · rw [herr] at h
        obtain rfl := Except.error.inj h
        exact ⟨added, k', behind, r.drain.2, hsplit, .inr rfl, hk', by rw [Action.after, herr]⟩

end Taxonomy
