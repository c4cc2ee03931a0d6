import Taxonomy.Proofs.Constraint.Appending

/-!
# Constraints only narrow

Whatever was denied is denied as before, and by the same constraint; whatever stood against a value
stands against it as before; and what passed before passes unless the new constraint itself objects.
What passes in the end does not depend on the order in which constraints are added.

* `Registry.NarrowedBy`, `Registry.CheckedBy`: what one constraint of either kind may change.
* `narrowedBy_of_gains`, `checkedBy_of_gains`: it changes no more than this.
* `allowed_perm`, `isValueValid_perm`: the order of several constraints.
* `constraints_only_narrow`: both kinds of constraints, in every reachable state.
-/

namespace Taxonomy

open Registry

variable {r r' r'' : Registry} {ks ks' : List Constraint}

/-! ## What passes -/

/-- **Narrowed by a constraint on placements**: what was denied is denied by the same decision; what
was allowed is allowed by the same rule, unless the constraint is about it and does not permit it;
and what stood against values stands against them. The functions of the constraint are assumed to
give an answer where they are asked. -/
structure Registry.NarrowedBy (r : Registry) (k : PlacementConstraint) (r' : Registry) : Prop where
  failed : ∀ parent child name f, Action.outcome (evaluate parent child name) r = .error f →
    Action.outcome (evaluate parent child name) r' = .error f
  denied : ∀ parent child name decision,
    Action.outcome (evaluate parent child name) r = .ok decision → decision.allowed = false →
    Action.outcome (evaluate parent child name) r' = .ok decision
  allowed : ∀ parent child name decision,
    Action.outcome (evaluate parent child name) r = .ok decision → decision.allowed = true →
    ∃ d, r.snapshot.type? parent = some d ∧
      (k.AnswersAt (r.snapshot.placementOf d child name) →
        Action.outcome (evaluate parent child name) r' = .ok
          (if k.forbids (r.snapshot.placementOf d child name) then
            { allowed := false, rule := decision.rule, constraint := k.id, reason := k.description }
          else decision))
  values : ∀ switches node attrName v, ({ r' with switches } : Registry).violations node attrName v =
    ({ r with switches } : Registry).violations node attrName v

/-- **Narrowed by a constraint on values**: decisions on placements are the same, and what stood
against a value is followed by what the constraint says against it, if anything. -/
structure Registry.CheckedBy (r : Registry) (k : ValidationConstraint) (r' : Registry) : Prop where
  placements : ∀ parent child name, Action.outcome (evaluate parent child name) r' =
    Action.outcome (evaluate parent child name) r
  failed : ∀ switches node attrName v f,
    ({ r with switches } : Registry).violations node attrName v = .error f →
    ({ r' with switches } : Registry).violations node attrName v = .error f
  followed : ∀ switches node attrName v xs,
    ({ r with switches } : Registry).violations node attrName v = .ok xs →
    k.AnswersAt node attrName v →
    ∃ found : Option Violation,
      ({ r' with switches } : Registry).violations node attrName v = .ok (xs ++ found.toList) ∧
      (∀ x, found = some x → x.constraint = k.id) ∧
      ∀ x, found = some x ↔
        ∃ id, ({ r with switches } : Registry).Contributes k node id attrName v x

variable {k : PlacementConstraint} {l : ValidationConstraint}

/-- More constraints on values do not count for placements. -/
theorem evaluate_gains (hr : r.Reachable) (hr' : r'.Reachable) (h : r.Gains [.validation l] r')
    (parent child : TypeId) (name : Value) :
    Action.outcome (evaluate parent child name) r' =
      Action.outcome (evaluate parent child name) r := by
  have hplacement : r'.snapshot.contents.placement = r.snapshot.contents.placement := by
    rw [h.placement]
    exact List.append_nil _
  rw [outcome_evaluate hr, outcome_evaluate hr', evaluate_congr h.types hplacement]

/-- All that stands against a value of a node with a target. -/
theorem violations_of_target {node : Node} {id : TypeId} (hnode : node.target = .ok id)
    (attrName v : Value) : r.violations node attrName v =
      if r.switches.areOn id.family then r.snapshot.violations node id attrName v else .ok [] := by
  rw [Registry.violations, hnode]
  simp only [bind, Except.bind]
  cases r.switches.areOn id.family <;> rfl

theorem violations_of_error {node : Node} {f : Fault} (hnode : node.target = .error f)
    (attrName v : Value) : r.violations node attrName v = .error f := by
  rw [Registry.violations, hnode]
  rfl

/-- More constraints on placements do not count for values. -/
theorem violations_gains (h : r.Gains [.placement k] r') (switches : Switches) (node : Node)
    (attrName v : Value) : ({ r' with switches } : Registry).violations node attrName v =
      ({ r with switches } : Registry).violations node attrName v := by
  have hvalidation : r'.snapshot.contents.validation = r.snapshot.contents.validation := by
    rw [h.validation]
    exact List.append_nil _
  cases hnode : node.target with
  | error f => rw [violations_of_error hnode, violations_of_error hnode]
  | ok id =>
    rw [violations_of_target hnode, violations_of_target hnode, Snapshot.violations,
      Snapshot.violations, hvalidation, schemaViolation?_congr h.types, lineage_congr h.types]

/-- **What a constraint contributes bears its id.** -/
theorem constraint_of_violation? {node : Node} {id : TypeId} {lineage : List TypeId}
    {attrName v : Value} {x : Violation}
    (h : l.violation? node id lineage attrName v = .ok (some x)) : x.constraint = l.id := by
  rw [ValidationConstraint.violation?] at h
  obtain ⟨applies, -, h⟩ := ok_of_bind h
  split at h
  · cases h
  · obtain ⟨reason, -, h⟩ := ok_of_bind h
    split at h
    · split at h
      · obtain rfl := Option.some.inj (Except.ok.inj h)
        rfl
      · cases h
    · cases h

theorem narrowedBy_of_gains (hr : r.Reachable) (hr' : r'.Reachable)
    (h : r.Gains [.placement k] r') : r.NarrowedBy k r' := by
  have heq (parent child : TypeId) (name : Value) :
      Action.outcome (evaluate parent child name) r' =
        Action.outcome (evaluate parent child name) r >>=
          r.snapshot.reconsider [k] parent child name := by
    rw [outcome_evaluate hr, outcome_evaluate hr']
    exact evaluate_append h.types h.placement parent child name
  refine ⟨?_, ?_, ?_, violations_gains h⟩
  · intro parent child name f hf
    rw [heq, hf]
    rfl
  · intro parent child name decision hdecision hno
    rw [heq, hdecision]
    exact reconsider_of_denied hno [k]
  · intro parent child name decision hdecision hyes
    have hbuilt := hdecision
    rw [outcome_evaluate hr] at hbuilt
    obtain ⟨d, hd⟩ := exists_type?_of_allowed hbuilt hyes
    refine ⟨d, hd, fun hanswers => ?_⟩
    rw [heq, hdecision]
    refine (reconsider_of_allowed hd hyes [k]).trans ?_
    rw [firstDenial_singleton hanswers]
    cases k.forbids (r.snapshot.placementOf d child name) <;> rfl

theorem checkedBy_of_gains (hr : r.Reachable) (hr' : r'.Reachable)
    (h : r.Gains [.validation l] r') : r.CheckedBy l r' := by
  refine ⟨evaluate_gains hr hr' h, ?_, ?_⟩
  · intro switches node attrName v f hf
    cases hnode : node.target with
    | error f' => rwa [violations_of_error hnode] at hf ⊢
    | ok id =>
      rw [violations_of_target hnode] at hf ⊢
      by_cases hon : switches.areOn id.family = true
      · rw [if_pos hon] at hf ⊢
        rw [violations_concat h.types h.validation, hf]
        rfl
      · rw [if_neg hon] at hf
        cases hf
  · intro switches node attrName v xs hxs hanswers
    cases hnode : node.target with
    | error f =>
      rw [violations_of_error hnode] at hxs
      cases hxs
    | ok id =>
      -- the constraint contributes as this type, if at all
      have htarget : ∀ x, ({ r with switches } : Registry).Contributes l node id attrName v x ↔
          ∃ id, ({ r with switches } : Registry).Contributes l node id attrName v x := by
        refine fun x => ⟨fun hx => ⟨id, hx⟩, ?_⟩
        rintro ⟨id', hx⟩
        obtain rfl := Except.ok.inj (hnode.symm.trans hx.target)
        exact hx
      rw [violations_of_target hnode] at hxs ⊢
      simp only [← htarget]
      by_cases hon : switches.areOn id.family = true
      · rw [if_pos hon] at hxs ⊢
        obtain ⟨found, hfound⟩ := hanswers.exists_violation? id (r.snapshot.lineage id)
        refine ⟨found, ?_, ?_, fun x => ⟨?_, fun hx => ?_⟩⟩
        · rw [violations_concat h.types h.validation, hxs]
          simp only [bind, Except.bind, hfound]
          rfl
        · rintro x rfl
          exact constraint_of_violation? hfound
        · rintro rfl
          exact ⟨hnode, hon, hfound⟩
        · exact Except.ok.inj (hfound.symm.trans hx.found)
      · rw [if_neg hon] at hxs ⊢
        obtain rfl := Except.ok.inj hxs
        refine ⟨none, rfl, ?_, fun x => ⟨?_, fun hx => absurd hx.areOn hon⟩⟩
        · intro x hx
          cases hx
        · intro hx
          cases hx

/-- **The order in which constraints are added does not count** for what passes. -/
theorem allowed_perm (hr' : r'.Reachable) (hr'' : r''.Reachable)
    (h : r.Gains ks r') (h' : r.Gains ks' r'') (hperm : ks.Perm ks') {parent child : TypeId}
    {name : Value} (hanswers : ∀ d, r.snapshot.type? parent = some d → ∀ k, .placement k ∈ ks →
      k.AnswersAt (r.snapshot.placementOf d child name)) :
    (Action.outcome (evaluate parent child name) r').map (·.allowed) =
      (Action.outcome (evaluate parent child name) r'').map (·.allowed) := by
  have hplacement : (ks.filterMap (·.placement?)).Perm (ks'.filterMap (·.placement?)) :=
    hperm.filterMap _
  have hadded : ∀ d, r.snapshot.type? parent = some d → ∀ k ∈ ks.filterMap (·.placement?),
      k.AnswersAt (r.snapshot.placementOf d child name) :=
    fun d hd k hk => hanswers d hd k (mem_filterMap_placement?.1 hk)
  have hadded' : ∀ d, r.snapshot.type? parent = some d → ∀ k ∈ ks'.filterMap (·.placement?),
      k.AnswersAt (r.snapshot.placementOf d child name) :=
    fun d hd k hk => hadded d hd k (hplacement.mem_iff.2 hk)
  rw [outcome_evaluate hr', outcome_evaluate hr'', allowed_append h.types h.placement hadded,
    allowed_append h'.types h'.placement hadded', permits_perm hplacement]

theorem isValueValid_perm (h : r.Gains ks r') (h' : r.Gains ks' r'') (hperm : ks.Perm ks')
    (switches : Switches) {node : Node} {attrName v : Value}
    (hanswers : ∀ k, .validation k ∈ ks → k.AnswersAt node attrName v) :
    ({ r' with switches } : Registry).isValueValid node attrName v =
      ({ r'' with switches } : Registry).isValueValid node attrName v := by
  have hvalidation : (ks.filterMap (·.validation?)).Perm (ks'.filterMap (·.validation?)) :=
    hperm.filterMap _
  have hadded : ∀ k ∈ ks.filterMap (·.validation?), k.AnswersAt node attrName v :=
    fun k hk => hanswers k (mem_filterMap_validation?.1 hk)
  have hadded' : ∀ k ∈ ks'.filterMap (·.validation?), k.AnswersAt node attrName v :=
    fun k hk => hadded k (hvalidation.mem_iff.2 hk)
  have hleft : ({ r' with switches } : Registry).isValueValid node attrName v =
      (({ r with switches } : Registry).isValueValid node attrName v).map
        (· && ({ r with switches } : Registry).passes _ node attrName v) :=
    isValueValid_append h.types h.validation rfl hadded
  have hright : ({ r'' with switches } : Registry).isValueValid node attrName v =
      (({ r with switches } : Registry).isValueValid node attrName v).map
        (· && ({ r with switches } : Registry).passes _ node attrName v) :=
    isValueValid_append h'.types h'.validation rfl hadded'
  rw [hleft, hright, passes_perm hvalidation]

/-- **Constraints only narrow.** Take a registry that some run has led to, in which no scope is
queued. A constraint under a new id is added, and then nothing that was denied or rejected before
passes, and nothing else changes but what this constraint objects to. So which placements and which
values pass does not depend on the order in which constraints are added.

The functions of the new constraints are assumed to give an answer for the placement or the value in
question. -/
theorem constraints_only_narrow {r : Registry} (hr : r.Reachable) (hidle : r.released = []) :
    (∀ k scope, r.snapshot.contents.hasConstraint k.id = false →
      Action.outcome (addConstraint (.constraint (.placement k)) scope) r = .ok () ∧
        r.NarrowedBy k (r.perform (.addConstraint (.constraint (.placement k)) scope))) ∧
    (∀ k scope, r.snapshot.contents.hasConstraint k.id = false →
      Action.outcome (addConstraint (.constraint (.validation k)) scope) r = .ok () ∧
        r.CheckedBy k (r.perform (.addConstraint (.constraint (.validation k)) scope))) ∧
    ∀ ks ks' : List (Constraint × ScopeRef), ks.Perm ks' → (ks.map (·.1.id)).Nodup →
      (∀ p ∈ ks, r.snapshot.contents.hasConstraint p.1.id = false) →
      (∀ parent child name,
        (∀ d, r.snapshot.type? parent = some d → ∀ k, .placement k ∈ ks.map (·.1) →
          k.AnswersAt (r.snapshot.placementOf d child name)) →
        (Action.outcome (evaluate parent child name) (r.constrain ks)).map (·.allowed) =
          (Action.outcome (evaluate parent child name) (r.constrain ks')).map (·.allowed)) ∧
      ∀ switches node attrName v,
        (∀ k, .validation k ∈ ks.map (·.1) → k.AnswersAt node attrName v) →
        ({ r.constrain ks with switches } : Registry).isValueValid node attrName v =
          ({ r.constrain ks' with switches } : Registry).isValueValid node attrName v := by
  have hnext (op : Operation) : (r.perform op).Reachable := hr.run [op]
  refine ⟨?_, ?_, ?_⟩
  · intro k scope hfree
    obtain ⟨hout, hgains⟩ := gains_addConstraint (k := .placement k) hidle hfree scope
    exact ⟨hout, narrowedBy_of_gains hr (hnext _) hgains⟩
  · intro k scope hfree
    obtain ⟨hout, hgains⟩ := gains_addConstraint (k := .validation k) hidle hfree scope
    exact ⟨hout, checkedBy_of_gains hr (hnext _) hgains⟩
  · intro ks ks' hperm hnodup hfree
    -- in either order every constraint finds its id free, so none of them is refused
    have hnodup' : (ks'.map (·.1.id)).Nodup := (hperm.map _).nodup_iff.1 hnodup
    have hfree' : ∀ p ∈ ks', r.snapshot.contents.hasConstraint p.1.id = false :=
      fun p hp => hfree p (hperm.mem_iff.2 hp)
    have hgains := gains_constrain hidle hnodup hfree
    have hgains' := gains_constrain hidle hnodup' hfree'
    have hks : (ks.map (·.1)).Perm (ks'.map (·.1)) := hperm.map _
    refine ⟨fun parent child name hanswers => ?_, fun switches node attrName v hanswers => ?_⟩
    · exact allowed_perm (hr.run _) (hr.run _) hgains hgains' hks hanswers
    · exact isValueValid_perm hgains hgains' hks switches hanswers

/-- A text may stand under the base type until texts are kept out; and whether it may does not depend
on the order in which this constraint and the one on titles are added. -/
theorem constraints_only_narrow_families :
    families.released = [] ∧
      families.NarrowedBy noTexts
        (families.perform (.addConstraint (.constraint (.placement noTexts)) .none)) ∧
      families.CheckedBy titled
        (families.perform (.addConstraint (.constraint (.validation titled)) .none)) ∧
      (Action.outcome (evaluate ⟨"file", "base"⟩ ⟨"file", "text"⟩ .null) families).toOption.map
        (·.allowed) = some true ∧
      (Action.outcome (evaluate ⟨"file", "base"⟩ ⟨"file", "text"⟩ .null) (families.constrain
          [(.placement noTexts, .none), (.validation titled, .none)])).map (·.allowed) =
        (Action.outcome (evaluate ⟨"file", "base"⟩ ⟨"file", "text"⟩ .null) (families.constrain
          [(.validation titled, .none), (.placement noTexts, .none)])).map (·.allowed) := by
  have hidle : families.released = [] := by decide +kernel
  obtain ⟨hplacement, hvalidation, horder⟩ :=
    constraints_only_narrow (r := families) ⟨"files", familyRun, rfl⟩ hidle
  have hbefore : (Action.outcome (evaluate ⟨"file", "base"⟩ ⟨"file", "text"⟩ .null)
      families).toOption.map (·.allowed) = some true := by decide +kernel
  refine ⟨hidle, (hplacement noTexts .none (by decide +kernel)).2,
    (hvalidation titled .none (by decide +kernel)).2, hbefore, ?_⟩
  refine (horder _ _ (List.Perm.swap _ _ []) (by decide) ?_).1 _ _ _ ?_
  · intro p hp
    rcases List.mem_cons.1 hp with rfl | hp
    · decide +kernel
    · obtain rfl := List.mem_singleton.1 hp
      decide +kernel
  · intro d hd k hk
    obtain rfl : k = noTexts := by simpa using hk
    exact ⟨⟨_, rfl⟩, by rintro f ⟨⟩⟩

end Taxonomy
