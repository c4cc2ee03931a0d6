import Taxonomy.Proofs.Constraint.Inheriting
import Taxonomy.Proofs.Registry.Constraining

/-!
# More constraints

A new constraint comes behind those that are there, so it is asked last: about a placement where
this is allowed so far, and about a value where nothing stands against it so far.

* `evaluate_append`: what more constraints make of a decision.
* `isValueValid_append`, `violations_concat`: what they say against a value.
* `permits_perm`, `passes_perm`: what they let pass does not depend on their order.
* `Registry.Gains`: a registry with more constraints of both kinds, and the same types.
* `gains_addConstraint`, `gains_constrain`: adding one constraint, and adding several.
-/

namespace Taxonomy

open Registry

/-! ## More constraints on placements -/

/-- What is left of a decision where a constraint denies the placement. -/
def Decision.under (decision : Decision) : Option PlacementConstraint → Decision
  | some k =>
    { allowed := false, rule := decision.rule, constraint := k.id, reason := k.description }
  | none => decision

/-- **What more constraints make of a decision.** They are asked only where the placement is allowed
without them. -/
def Snapshot.reconsider (s : Snapshot) (ks : List PlacementConstraint) (parent child : TypeId)
    (name : Value) (decision : Decision) : Result Decision :=
  match s.type? parent with
  | some d =>
    if decision.allowed then (firstDenial (s.placementOf d child name) ks).map decision.under
    else pure decision
  | none => pure decision

/-- **Do constraints permit a placement?** None of them stands in its way. -/
def Snapshot.permits (s : Snapshot) (ks : List PlacementConstraint) (parent child : TypeId)
    (name : Value) : Bool :=
  match s.type? parent with
  | some d => ks.all fun k => !k.forbids (s.placementOf d child name)
  | none => true

variable {s s' : Snapshot} {parent child : TypeId} {name : Value} {decision : Decision}

/-- The first denial is among the first constraints, or else among the others. -/
theorem firstDenial_append (c : PlacementContext) (ks ks' : List PlacementConstraint) :
    firstDenial c (ks ++ ks') = firstDenial c ks >>= fun denial => match denial with
      | some k => pure (some k)
      | none => firstDenial c ks' := by
  induction ks with
  | nil => rfl
  | cons k ks ih =>
    rw [List.cons_append, firstDenial, firstDenial, ih]
    cases k.denies c with
    | error f => rfl
    | ok denies => cases denies <;> rfl

/-- What is denied is not reconsidered. -/
theorem reconsider_of_denied (h : decision.allowed = false) (ks : List PlacementConstraint) :
    s.reconsider ks parent child name decision = .ok decision := by
  rw [Snapshot.reconsider, h]
  cases s.type? parent <;> rfl

/-- What is allowed is reconsidered by all constraints that are new. -/
theorem reconsider_of_allowed {d : TypeDefinition} (hd : s.type? parent = some d)
    (h : decision.allowed = true) (ks : List PlacementConstraint) :
    s.reconsider ks parent child name decision =
      (firstDenial (s.placementOf d child name) ks).map decision.under := by
  rw [Snapshot.reconsider, hd]
  exact if_pos h

/-- A parent that may have the child is stored. -/
theorem exists_type?_of_allowed
    (h : (PlacementTable.build s).evaluate parent child name = .ok decision)
    (hyes : decision.allowed = true) : ∃ d, s.type? parent = some d := by
  obtain ⟨d, rule, hruling⟩ := exists_governed_of_allowed h hyes
  exact ⟨d, type?_of_governed hruling⟩

/-- **More constraints reconsider the decision** that was made without them. -/
theorem evaluate_append {ks : List PlacementConstraint}
    (htypes : s'.contents.types = s.contents.types)
    (hplacement : s'.contents.placement = s.contents.placement ++ ks) (parent child : TypeId)
    (name : Value) :
    (PlacementTable.build s').evaluate parent child name =
      (PlacementTable.build s).evaluate parent child name >>=
        s.reconsider ks parent child name := by
  have hsame : s'.ruling parent child name = s.ruling parent child name :=
    ruling_congr htypes parent child name
  cases hruling : s.ruling parent child name with
  | error f =>
    rw [evaluate_eq_ruling, evaluate_eq_ruling, hsame, hruling]
    rfl
  | ok ruling =>
    cases ruling with
    | denied rule reason =>
      rw [evaluate_eq_ruling, evaluate_eq_ruling, hsame, hruling]
      exact (reconsider_of_denied rfl ks).symm
    | governed d rule =>
      have hd : s.type? parent = some d := type?_of_governed hruling
      rw [evaluate_governed hruling, evaluate_governed (hsame.trans hruling), hplacement,
        placementOf_congr htypes, firstDenial_append]
      rcases firstDenial (s.placementOf d child name) s.contents.placement with f | (_ | k)
      · rfl
      · -- no constraint that was there denies it, so the new ones decide
        refine Eq.trans ?_ (reconsider_of_allowed hd rfl ks).symm
        exact congrArg (Except.map · _) (funext fun denial => by cases denial <;> rfl)
      · exact (reconsider_of_denied rfl ks).symm

/-- A constraint that gives an answer denies a placement or not. -/
theorem firstDenial_singleton {k : PlacementConstraint} {c : PlacementContext}
    (h : k.AnswersAt c) : firstDenial c [k] = .ok (if k.forbids c then some k else none) := by
  rw [firstDenial, h.denies_eq]
  cases k.forbids c <;> rfl

/-- **Whether a placement is allowed** with more constraints: it was allowed without them, and they
permit it. -/
theorem allowed_append {ks : List PlacementConstraint}
    (htypes : s'.contents.types = s.contents.types)
    (hplacement : s'.contents.placement = s.contents.placement ++ ks)
    (hanswers : ∀ d, s.type? parent = some d → ∀ k ∈ ks, k.AnswersAt (s.placementOf d child name)) :
    ((PlacementTable.build s').evaluate parent child name).map (·.allowed) =
      ((PlacementTable.build s).evaluate parent child name).map
        (·.allowed && s.permits ks parent child name) := by
  rw [evaluate_append htypes hplacement]
  cases hdecision : (PlacementTable.build s).evaluate parent child name with
  | error f => rfl
  | ok decision =>
    change (s.reconsider ks parent child name decision).map (·.allowed) =
      .ok (decision.allowed && s.permits ks parent child name)
    cases hallowed : decision.allowed with
    | false =>
      rw [reconsider_of_denied hallowed, Bool.false_and]
      exact congrArg Except.ok hallowed
    | true =>
      obtain ⟨d, hd⟩ := exists_type?_of_allowed hdecision hallowed
      rw [reconsider_of_allowed hd hallowed, Snapshot.permits, hd,
        firstDenial_eq_find? (hanswers d hd), Bool.true_and]
      cases hfind : ks.find? (·.forbids (s.placementOf d child name)) with
      | none =>
        have hall : (ks.all fun k => !k.forbids (s.placementOf d child name)) = true := by
          simpa using hfind
        simp only [Except.map, Decision.under, hallowed, hall]
      | some k =>
        have hsome : (ks.all fun k => !k.forbids (s.placementOf d child name)) = false := by
          rw [List.all_eq_false]
          exact ⟨k, List.mem_of_find?_eq_some hfind, by simpa using List.find?_some hfind⟩
        simp only [Except.map, Decision.under, hsome]

/-- The order of constraints does not count for what they permit. -/
theorem permits_perm {ks ks' : List PlacementConstraint} (h : ks.Perm ks') (s : Snapshot)
    (parent child : TypeId) (name : Value) :
    s.permits ks parent child name = s.permits ks' parent child name := by
  rw [Snapshot.permits, Snapshot.permits]
  cases s.type? parent with
  | none => rfl
  | some d => exact h.all_eq

/-! ## More constraints on values -/

section Values

variable {r r' : Registry} {node : Node} {id : TypeId} {attrName v : Value}

/-- **Does a constraint say something against a value?** -/
def ValidationConstraint.objects (k : ValidationConstraint) (node : Node) (id : TypeId)
    (lineage : List TypeId) (attrName v : Value) : Bool :=
  match k.violation? node id lineage attrName v with
  | .ok found => found.isSome
  | .error _ => false

/-- **Do constraints let a value pass?** They do where checks on the node's family are off. -/
def Registry.passes (r : Registry) (ks : List ValidationConstraint) (node : Node)
    (attrName v : Value) : Bool :=
  match node.target with
  | .ok id => !r.switches.areOn id.family ||
      ks.all fun k => !k.objects node id (r.snapshot.lineage id) attrName v
  | .error _ => true

theorem lineage_congr (h : s'.contents.types = s.contents.types) (id : TypeId) :
    s'.lineage id = s.lineage id := by
  rw [Snapshot.lineage, Snapshot.lineage, Snapshot.type?, Snapshot.type?, h]

theorem schemaViolation?_congr (h : s'.contents.types = s.contents.types) (id : TypeId)
    (attrName v : Value) : s'.schemaViolation? id attrName v = s.schemaViolation? id attrName v := by
  rw [Snapshot.schemaViolation?, Snapshot.schemaViolation?, Snapshot.type?, Snapshot.type?, h]

theorem firstViolation_congr (h : s'.contents.types = s.contents.types)
    (ks : List ValidationConstraint) : s'.firstViolation node id attrName v ks =
      s.firstViolation node id attrName v ks := by
  induction ks with
  | nil => rfl
  | cons k ks ih => rw [Snapshot.firstViolation, Snapshot.firstViolation, lineage_congr h, ih]

/-- The first violation is one of the first constraints, or else one of the others. -/
theorem firstViolation_append (ks ks' : List ValidationConstraint) :
    s.firstViolation node id attrName v (ks ++ ks') =
      s.firstViolation node id attrName v ks >>= fun found => match found with
        | some x => pure (some x)
        | none => s.firstViolation node id attrName v ks' := by
  induction ks with
  | nil => rfl
  | cons k ks ih =>
    rw [List.cons_append, Snapshot.firstViolation, Snapshot.firstViolation, ih]
    cases k.violation? node id (s.lineage id) attrName v with
    | error f => rfl
    | ok found => cases found <;> rfl

/-- Where all constraints give an answer, there is no violation exactly if none of them objects. -/
theorem firstViolation_isNone (s : Snapshot) (id : TypeId) {ks : List ValidationConstraint}
    (hanswers : ∀ k ∈ ks, k.AnswersAt node attrName v) :
    ∃ found, s.firstViolation node id attrName v ks = .ok found ∧
      found.isNone = ks.all fun k => !k.objects node id (s.lineage id) attrName v := by
  induction ks with
  | nil => exact ⟨none, rfl, rfl⟩
  | cons k ks ih =>
    obtain ⟨found, hfound⟩ :=
      (hanswers k List.mem_cons_self).exists_violation? id (s.lineage id)
    have hobjects : k.objects node id (s.lineage id) attrName v = found.isSome := by
      rw [ValidationConstraint.objects, hfound]
    rw [Snapshot.firstViolation, hfound, List.all_cons, hobjects]
    cases found with
    | some x => exact ⟨some x, rfl, rfl⟩
    | none =>
      obtain ⟨rest, hrest, hnone⟩ := ih fun k' hk' => hanswers k' (List.mem_cons_of_mem _ hk')
      exact ⟨rest, hrest, hnone⟩

/-- **What more constraints change for a value**: where it is not valid, nothing; where it is, they
have to let it pass. -/
theorem isValueValid_append {ks : List ValidationConstraint}
    (htypes : r'.snapshot.contents.types = r.snapshot.contents.types)
    (hvalidation : r'.snapshot.contents.validation = r.snapshot.contents.validation ++ ks)
    (hswitches : r'.switches = r.switches)
    (hanswers : ∀ k ∈ ks, k.AnswersAt node attrName v) :
    r'.isValueValid node attrName v =
      (r.isValueValid node attrName v).map (· && r.passes ks node attrName v) := by
  rw [Registry.isValueValid, Registry.isValueValid, Registry.checkValue, Registry.checkValue,
    Registry.passes, hswitches, hvalidation]
  cases node.target with
  | error f => cases f <;> rfl
  | ok id =>
    obtain ⟨found, hfound, hnone⟩ := firstViolation_isNone r.snapshot id hanswers
    simp only [bind, Except.bind]
    rw [schemaViolation?_congr htypes, firstViolation_congr htypes, firstViolation_append, hfound,
      ← hnone]
    cases r.switches.areOn id.family with
    | false => rfl
    | true =>
      -- the schema comes first, then the constraints that were there
      rcases r.snapshot.schemaViolation? id attrName v with f | (_ | x)
      · cases f <;> rfl
      · rcases r.snapshot.firstViolation node id attrName v r.snapshot.contents.validation with
          f | (_ | x)
        · cases f <;> rfl
        · cases found <;> rfl
        · rfl
      · rfl

/-- Violations of one more constraint come behind the others. -/
theorem violations_concat {k : ValidationConstraint}
    (htypes : s'.contents.types = s.contents.types)
    (hvalidation : s'.contents.validation = s.contents.validation ++ [k]) :
    s'.violations node id attrName v = (do
      let xs ← s.violations node id attrName v
      let found ← k.violation? node id (s.lineage id) attrName v
      return xs ++ found.toList) := by
  have hlast (found : Option Violation) : [found].filterMap (fun x => x) = found.toList := by
    cases found <;> rfl
  rw [Snapshot.violations, Snapshot.violations, hvalidation, schemaViolation?_congr htypes,
    lineage_congr htypes, List.mapM_append, List.mapM_cons, List.mapM_nil]
  simp only [bind_assoc, pure_bind, List.filterMap_append, List.append_assoc, hlast]
/-- The order of constraints does not count for what they let pass. -/
theorem passes_perm {ks ks' : List ValidationConstraint} (h : ks.Perm ks') (r : Registry)
    (node : Node) (attrName v : Value) :
    r.passes ks node attrName v = r.passes ks' node attrName v := by
  rw [Registry.passes, Registry.passes]
  cases node.target with
  | error f => rfl
  | ok id =>
    simp only
    rw [h.all_eq]

end Values

/-! ## Adding constraints -/

variable {r r' r'' : Registry} {ks ks' : List Constraint}

/-- **A registry with more constraints**: the types are the same, and the constraints come behind
those of their kind. -/
structure Registry.Gains (r : Registry) (ks : List Constraint) (r' : Registry) : Prop where
  types : r'.snapshot.contents.types = r.snapshot.contents.types
  placement : r'.snapshot.contents.placement =
    r.snapshot.contents.placement ++ ks.filterMap (·.placement?)
  validation : r'.snapshot.contents.validation =
    r.snapshot.contents.validation ++ ks.filterMap (·.validation?)

theorem gains_nil (r : Registry) : r.Gains [] r := ⟨rfl, by simp, by simp⟩

theorem gains_withConstraints (r : Registry) (ks : List Constraint) (s : Option Value) :
    r.Gains ks (r.withConstraints ks s) := ⟨rfl, rfl, rfl⟩

theorem Registry.Gains.trans (h : r.Gains ks r') (h' : r'.Gains ks' r'') :
    r.Gains (ks ++ ks') r'' := by
  refine ⟨h'.types.trans h.types, ?_, ?_⟩
  · rw [h'.placement, h.placement, List.filterMap_append, List.append_assoc]
  · rw [h'.validation, h.validation, List.filterMap_append, List.append_assoc]

/-- **Adds constraints**, each for a scope, one after the other. -/
def Registry.constrain (r : Registry) (ks : List (Constraint × ScopeRef)) : Registry :=
  r.run (ks.map fun p => .addConstraint (.constraint p.1) p.2)

/-- What one constraint comes to, under an id of its own and where no scope is queued. -/
theorem gains_addConstraint (hidle : r.released = []) {k : Constraint}
    (hfree : r.snapshot.contents.hasConstraint k.id = false) (scope : ScopeRef) :
    Action.outcome (addConstraint (.constraint k) scope) r = .ok () ∧
      r.Gains [k] (r.perform (.addConstraint (.constraint k) scope)) := by
  rw [perform_addConstraint_of_idle hidle hfree, Action.outcome,
    run_addConstraint_of_idle hidle hfree]
  exact ⟨rfl, gains_withConstraints r [k] _⟩

/-- **What a series of constraints comes to**, by induction on the series: every constraint finds
its id free, since the ids of those before it are others. -/
theorem gains_constrain {ks : List (Constraint × ScopeRef)} (hidle : r.released = [])
    (hnodup : (ks.map (·.1.id)).Nodup)
    (hfree : ∀ p ∈ ks, r.snapshot.contents.hasConstraint p.1.id = false) :
    r.Gains (ks.map (·.1)) (r.constrain ks) := by
  induction ks generalizing r with
  | nil => exact gains_nil r
  | cons p ks ih =>
    obtain ⟨hnot, hnodup⟩ := List.nodup_cons.1 hnodup
    have hfirst : r.snapshot.contents.hasConstraint p.1.id = false := hfree p List.mem_cons_self
    have hrest : ∀ q ∈ ks, (r.withConstraints [p.1]
        (r.effectiveScope p.2)).snapshot.contents.hasConstraint q.1.id = false := by
      intro q hq
      have hne : p.1.id ≠ q.1.id := fun e => hnot (List.mem_map.2 ⟨q, hq, e.symm⟩)
      have hbefore := hfree q (List.mem_cons_of_mem _ hq)
      have hafter := hasConstraint_withConstraints r.snapshot.contents [p.1]
        (r.effectiveScope p.2) q.1.id
      rw [hbefore] at hafter
      refine hafter.trans ?_
      simpa using hne
    have htail := ih (r := r.withConstraints [p.1] (r.effectiveScope p.2)) hidle hnodup hrest
    have hsplit : r.constrain (p :: ks) =
        (r.perform (.addConstraint (.constraint p.1) p.2)).constrain ks := rfl
    rw [hsplit, perform_addConstraint_of_idle hidle hfirst]
    exact (gains_withConstraints r [p.1] _).trans htail

end Taxonomy
