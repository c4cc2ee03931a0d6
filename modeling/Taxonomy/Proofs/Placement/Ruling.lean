import Taxonomy.Proofs.Draft
import Taxonomy.Proofs.Placement.Currency
import Taxonomy.Proofs.Placement.Scan

/-!
# Decisions, told apart by who makes them

On a placement the types have the first word: they deny it, or name the rule that governs it. Then
the constraints have the last word, in the order in which they were registered.

* `Snapshot.ruling`: what the types say. It is the same in all snapshots with these types.
* `evaluate_eq_ruling`: the decision is made of the ruling and of the constraints.
* `exists_denies`, `not_allowed_of_denies`: denials by constraints.
* `outcome_evaluate`: in a reachable state a decision is that of a table that is built anew.
-/

namespace Taxonomy

open Registry

/-- **What the types alone say on a placement**: they deny it for a reason, or leave it to the
constraints, with the parent and the rule that governs. -/
inductive Ruling where
  | denied (rule : Option ChildRule) (reason : String)
  | governed (parent : TypeDefinition) (rule : ChildRule)

/-- The ruling of the types of a snapshot. -/
def Snapshot.ruling (s : Snapshot) (parent child : TypeId) (name : Value) : Result Ruling :=
  match s.type? parent with
  | none => pure (.denied none s!"parent type {parent} is not registered")
  | some d => do
    match (probeKeys child (← name.asKey)).findSome? (s.entryOf d).rule? with
    | none => return .denied none s!"no accepts-children rule of {parent} matches"
    | some rule =>
      if s.refusesParent child parent name then
        return .denied rule s!"{child} does not accept {parent} as a parent"
      else return .governed d rule

/-- The decision on a placement that rules permit, by the constraint that denies it. -/
def Decision.ofDenial (rule : ChildRule) : Option PlacementConstraint → Decision
  | some k => { allowed := false, rule, constraint := k.id, reason := k.description }
  | none => { allowed := true, rule }

/-- The decision that a ruling leads to. -/
def Snapshot.decide (s : Snapshot) (child : TypeId) (name : Value) : Ruling → Result Decision
  | .denied rule reason => pure { allowed := false, rule, reason }
  | .governed d rule =>
    (firstDenial (s.placementOf d child name) s.contents.placement).map (Decision.ofDenial rule)

variable {s s' : Snapshot} {parent child : TypeId} {d : TypeDefinition}

/-! ## Rulings -/

/-- **Snapshots with the same types make the same rulings.** -/
theorem ruling_congr (h : s'.contents.types = s.contents.types) (parent child : TypeId)
    (name : Value) : s'.ruling parent child name = s.ruling parent child name := by
  have htype (t : TypeId) : s'.type? t = s.type? t := by rw [Snapshot.type?, Snapshot.type?, h]
  unfold Snapshot.ruling Snapshot.refusesParent
  rw [htype, htype]
  rfl

theorem placementOf_congr (h : s'.contents.types = s.contents.types) (d : TypeDefinition)
    (child : TypeId) (name : Value) : s'.placementOf d child name = s.placementOf d child name := by
  rw [Snapshot.placementOf, Snapshot.placementOf, Snapshot.type?, Snapshot.type?, h]

/-- The parent that a ruling names is the one that is stored. -/
theorem type?_of_governed {name : Value} {rule : ChildRule}
    (h : s.ruling parent child name = .ok (.governed d rule)) : s.type? parent = some d := by
  rw [Snapshot.ruling] at h
  cases hd : s.type? parent with
  | none =>
    rw [hd] at h
    cases h
  | some e =>
    rw [hd] at h
    obtain ⟨key, -, h⟩ := ok_of_bind h
    split at h
    · cases h
    · split at h
      · cases h
      · obtain rfl := (Ruling.governed.inj (Except.ok.inj h)).1
        rfl

/-- **A decision is made of the ruling and of the constraints.** -/
theorem evaluate_eq_ruling (s : Snapshot) (parent child : TypeId) (name : Value) :
    (PlacementTable.build s).evaluate parent child name =
      s.ruling parent child name >>= s.decide child name := by
  rw [PlacementTable.evaluate, Snapshot.ruling, definition_entries, find?_entries]
  cases hd : s.type? parent with
  | none => rfl
  | some d =>
    obtain rfl : d.id = parent := (Catalog.find?_eq_some_iff.1 hd).2
    -- of the constraints only those that cover the parent are asked
    have hkept : firstDenial (s.placementOf d child name) s.contents.placement =
        firstDenial (s.placementOf d child name) (s.entryOf d).constraints :=
      (firstDenial_coversParent rfl rfl _).symm
    simp only [Option.map_some]
    cases name.asKey with
    | error f => rfl
    | ok key =>
      simp only [bind, Except.bind]
      cases (probeKeys child key).findSome? (s.entryOf d).rule? with
      | none => rfl
      | some rule =>
        -- whether the child is stored shows in its parent rules and in its lineage
        cases hchild : s.type? child with
        | none =>
          simp only [Snapshot.refusesParent, hchild, Option.any_none, Bool.false_eq_true, if_false,
            List.isEmpty_nil, Bool.not_true, Bool.false_and, pure, Except.pure, Snapshot.decide,
            hkept]
          simp only [Snapshot.placementOf, hchild, Option.map_none, Option.getD_none,
            Snapshot.entryOf_definition]
          generalize firstDenial _ (s.entryOf d).constraints = denial
          rcases denial with f | (_ | k) <;> rfl
        | some e =>
          simp only [Snapshot.refusesParent, hchild, Option.any_some, List.not_any_eq_all_not]
          split
          · rfl
          · simp only [pure, Except.pure, Snapshot.decide, hkept]
            simp only [Snapshot.placementOf, hchild, Option.map_some, Option.getD_some,
              Snapshot.entryOf_definition]
            generalize firstDenial _ (s.entryOf d).constraints = denial
            rcases denial with f | (_ | k) <;> rfl

/-- **Snapshots with the same types and the same constraints make the same decisions.** -/
theorem evaluate_congr (h : s'.contents.types = s.contents.types)
    (hplacement : s'.contents.placement = s.contents.placement) (parent child : TypeId)
    (name : Value) : (PlacementTable.build s').evaluate parent child name =
      (PlacementTable.build s).evaluate parent child name := by
  rw [evaluate_eq_ruling, evaluate_eq_ruling, ruling_congr h]
  refine congrArg (s.ruling parent child name >>= ·) (funext fun ruling => ?_)
  cases ruling with
  | denied rule reason => rfl
  | governed d rule => rw [Snapshot.decide, Snapshot.decide, placementOf_congr h, hplacement]

/-- Where the types leave the decision to the constraints, it is made by the first of them that
denies. -/
theorem evaluate_governed {name : Value} {rule : ChildRule}
    (h : s.ruling parent child name = .ok (.governed d rule)) :
    (PlacementTable.build s).evaluate parent child name =
      (firstDenial (s.placementOf d child name) s.contents.placement).map
        (Decision.ofDenial rule) := by
  rw [evaluate_eq_ruling, h]
  rfl

/-- What is allowed is governed by a rule. -/
theorem exists_governed_of_allowed {name : Value} {decision : Decision}
    (h : (PlacementTable.build s).evaluate parent child name = .ok decision)
    (hyes : decision.allowed = true) :
    ∃ d rule, s.ruling parent child name = .ok (.governed d rule) := by
  rw [evaluate_eq_ruling] at h
  obtain ⟨ruling, hruling, h⟩ := ok_of_bind h
  cases ruling with
  | denied rule reason =>
    obtain rfl := Except.ok.inj h
    cases hyes
  | governed d rule => exact ⟨d, rule, hruling⟩

/-- Where the name of the child can be a key, the types say something. -/
theorem exists_ruling (s : Snapshot) (parent child : TypeId) (name : Option String) :
    ∃ ruling, s.ruling parent child (givenName name) = .ok ruling := by
  rw [Snapshot.ruling]
  cases s.type? parent with
  | none => exact ⟨_, rfl⟩
  | some d =>
    simp only [asKey_givenName, bind, Except.bind]
    split
    · exact ⟨_, rfl⟩
    · split <;> exact ⟨_, rfl⟩

/-! ## Denials by constraints -/

/-- The first denial is that of one of the constraints. -/
theorem mem_of_firstDenial {c : PlacementContext} {ks : List PlacementConstraint}
    {k : PlacementConstraint} (h : firstDenial c ks = .ok (some k)) :
    k ∈ ks ∧ k.denies c = .ok true := by
  induction ks with
  | nil => cases h
  | cons x ks ih =>
    rw [firstDenial] at h
    obtain ⟨b, hx, h⟩ := ok_of_bind h
    cases b with
    | false =>
      obtain ⟨hk, hd⟩ := ih h
      exact ⟨List.mem_cons_of_mem _ hk, hd⟩
    | true =>
      obtain rfl := Option.some.inj (Except.ok.inj h)
      exact ⟨List.mem_cons_self, hx⟩

/-- **Who denies a placement by a constraint**: one of those that are registered, under this id. -/
theorem exists_denies {name : Value} {decision : Decision} {id : String}
    (h : (PlacementTable.build s).evaluate parent child name = .ok decision)
    (hid : decision.constraint = some id) :
    ∃ d, s.type? parent = some d ∧ ∃ k ∈ s.contents.placement, k.id = id ∧
      k.denies (s.placementOf d child name) = .ok true := by
  rw [evaluate_eq_ruling] at h
  obtain ⟨ruling, hruling, h⟩ := ok_of_bind h
  cases ruling with
  | denied rule reason =>
    obtain rfl := Except.ok.inj h
    cases hid
  | governed d rule =>
    refine ⟨d, type?_of_governed hruling, ?_⟩
    rw [Snapshot.decide] at h
    cases hdenial : firstDenial (s.placementOf d child name) s.contents.placement with
    | error f =>
      rw [hdenial] at h
      cases h
    | ok denial =>
      rw [hdenial] at h
      obtain rfl := Except.ok.inj h
      cases denial with
      | none => cases hid
      | some k =>
        obtain ⟨hk, hdenies⟩ := mem_of_firstDenial hdenial
        exact ⟨k, hk, Option.some.inj hid, hdenies⟩

/-- **A placement that some constraint denies is not allowed**, if all constraints give an
answer. -/
theorem not_allowed_of_denies {name : Option String} (hd : s.type? parent = some d)
    (hanswers : ∀ k ∈ s.contents.placement, k.AnswersAt (s.placementOf d child (givenName name)))
    {k : PlacementConstraint} (hk : k ∈ s.contents.placement)
    (hdenies : k.denies (s.placementOf d child (givenName name)) = .ok true) :
    ∃ decision, (PlacementTable.build s).evaluate parent child (givenName name) = .ok decision ∧
      decision.allowed = false := by
  obtain ⟨ruling, hruling⟩ := exists_ruling s parent child name
  cases ruling with
  | denied rule reason =>
    rw [evaluate_eq_ruling, hruling]
    exact ⟨_, rfl, rfl⟩
  | governed e rule =>
    obtain rfl := Option.some.inj (hd.symm.trans (type?_of_governed hruling))
    rw [evaluate_governed hruling, firstDenial_eq_find? hanswers]
    have hforbids : k.forbids (s.placementOf d child (givenName name)) = true :=
      Except.ok.inj ((hanswers k hk).denies_eq.symm.trans hdenies)
    cases hfind : s.contents.placement.find?
        (·.forbids (s.placementOf d child (givenName name))) with
    | none => exact absurd hforbids (List.find?_eq_none.1 hfind k hk)
    | some first => exact ⟨_, rfl, rfl⟩

/-! ## Decisions in reachable states -/

/-- In a reachable state a decision is that of a table that is built anew. -/
theorem outcome_evaluate {r : Registry} (hr : r.Reachable) (parent child : TypeId) (name : Value) :
    Action.outcome (evaluate parent child name) r =
      (PlacementTable.build r.snapshot).evaluate parent child name := by
  obtain ⟨r', hr'⟩ := outcome_bind_currentTable hr.kept fun table =>
    liftM (table.evaluate parent child name)
  refine hr'.trans ?_
  cases PlacementTable.evaluate _ parent child name <;> rfl

end Taxonomy
