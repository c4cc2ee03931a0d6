import Taxonomy.Enforcement
import Taxonomy.Proofs.Constraint.Making
import Taxonomy.Proofs.Placement.Ruling
import Taxonomy.Proofs.Registry.ConstraintIds
import Taxonomy.Proofs.Registry.Steady

/-!
# Inherited constraints

A constraint that is about the descendants of the types it selects cannot be escaped by a type that
inherits from them: its lineage is longer, and whatever is selected by a part of a lineage is
selected by all of it. What a predicate decides against a placement it decides against every special
case of it, since the name of the child stays the same and its lineage grows.

* `selects_mono`: more types are in a longer lineage.
* `PlacementContext.Special`: a placement of descendants under the same name.
* `denies_special`, `violation?_special`: what a constraint says, it says of descendants.
* `constraints_are_inherited`: both kinds of constraints, in every reachable state.
-/

namespace Taxonomy

open Registry

/-! ## Longer lineages -/

/-- **Whatever is selected by a part of a lineage is selected by all of it.** -/
theorem selects_mono {p : TypePattern} {t : TypeId} {l l' : List TypeId} (hne : l ≠ [])
    (hsub : l ⊆ l') (h : selects p t l true = true) (t' : TypeId) :
    selects p t' l' true = true := by
  have hne' : l' ≠ [] := fun e => hne (List.subset_nil.1 (e ▸ hsub))
  rw [selects, if_pos rfl, if_neg (by simpa using hne)] at h
  rw [selects, if_pos rfl, if_neg (by simpa using hne')]
  obtain ⟨x, hx, hp⟩ := List.any_eq_true.1 h
  exact List.any_eq_true.2 ⟨x, hsub hx, hp⟩

/-- **A special case of a placement**: the child bears the same name, and both lineages are longer,
if anything. -/
structure PlacementContext.Special (c c' : PlacementContext) : Prop where
  childName : c'.childName = c.childName
  parent_ne_nil : c.parentLineage ≠ []
  child_ne_nil : c.childLineage ≠ []
  parent : c.parentLineage ⊆ c'.parentLineage
  child : c.childLineage ⊆ c'.childLineage

section Special

variable {c c' : PlacementContext}

/-- **What a predicate decides against a placement it decides against every special case of it.** -/
theorem check_special (h : c.Special c') {p : PlacementPredicate} (hp : p.check c = .ok false) :
    p.check c' = .ok false := by
  cases p with
  | denyChildName e | requireChildName e =>
    -- nothing but the name counts, and this is the same
    unfold PlacementPredicate.check at hp ⊢
    rw [h.childName]
    generalize c.childName = name at hp ⊢
    cases name <;> exact hp
  | denyChildType ps =>
    have hany : ps.any c.childIs = true := by
      simpa [PlacementPredicate.check, pure, Except.pure] using hp
    obtain ⟨p, hp, hc⟩ := List.any_eq_true.1 hany
    have hany' : ps.any c'.childIs = true :=
      List.any_eq_true.2 ⟨p, hp, selects_mono h.child_ne_nil h.child hc _⟩
    simp [PlacementPredicate.check, hany', pure, Except.pure]

variable {k : PlacementConstraint}

/-- A constraint denies what it is about and does not permit. -/
theorem denies_iff : k.denies c = .ok true ↔ k.appliesTo c = .ok true ∧ k.check c = .ok false := by
  rw [PlacementConstraint.denies, PlacementConstraint.allows]
  cases k.appliesTo c with
  | error e => simp [bind, Except.bind]
  | ok a =>
    cases a with
    | false => simp [bind, Except.bind, pure, Except.pure]
    | true =>
      cases k.check c with
      | error e => simp [bind, Except.bind]
      | ok b => simp [bind, Except.bind, pure, Except.pure]

/-- Where nothing but the patterns counts, a constraint is about what they select. -/
theorem appliesTo_iff (h : k.applies = none) :
    k.appliesTo c = .ok true ↔ selects k.parent c.parent c.parentLineage k.descendants = true ∧
      selects k.child c.child c.childLineage k.descendants = true := by
  rw [PlacementConstraint.appliesTo, h]
  cases selects k.parent c.parent c.parentLineage k.descendants with
  | false => simp [pure, Except.pure]
  | true =>
    cases selects k.child c.child c.childLineage k.descendants with
    | false => simp [pure, Except.pure]
    | true => simp [pure, Except.pure]

/-- **What a constraint denies it denies in every special case.** -/
theorem denies_special (hk : (Constraint.placement k).OfPredicate) (hdesc : k.descendants = true)
    (h : c.Special c') (hd : k.denies c = .ok true) : k.denies c' = .ok true := by
  obtain ⟨happlies, p, hcheck⟩ := hk
  rw [denies_iff, appliesTo_iff happlies, hdesc, hcheck] at hd ⊢
  obtain ⟨⟨hparent, hchild⟩, hdenied⟩ := hd
  have hparent' := selects_mono h.parent_ne_nil h.parent hparent c'.parent
  have hchild' := selects_mono h.child_ne_nil h.child hchild c'.child
  exact ⟨⟨hparent', hchild'⟩, check_special h hdenied⟩

end Special

/-! ## Descendants -/

/-- **Descendants under the same name are a special case**, where the stored types are coherent. -/
theorem special_placementOf {s : Snapshot} (hc : Coherent s.contents.types)
    {parent child parent' child' : TypeId} {d d' e' : TypeDefinition}
    (hd : s.type? parent = some d) (hd' : s.type? parent' = some d') (hparent : parent ∈ d'.lineage)
    (he' : s.type? child' = some e') (hchild : child ∈ e'.lineage) (name : Value) :
    (s.placementOf d child name).Special (s.placementOf d' child' name) := by
  obtain ⟨b, hb, hsub⟩ := hc.lineage_subset (Catalog.mem_of_find? hd') hparent
  obtain rfl : b = d := Option.some.inj (hb.symm.trans hd)
  obtain ⟨e, he, hsub'⟩ := hc.lineage_subset (Catalog.mem_of_find? he') hchild
  have hlin : (s.placementOf b child name).childLineage = e.lineage := by
    rw [Snapshot.placementOf, Snapshot.type?, he]
    rfl
  have hlin' : (s.placementOf d' child' name).childLineage = e'.lineage := by
    rw [Snapshot.placementOf, he']
    rfl
  refine ⟨rfl, List.cons_ne_nil _ _, ?_, hsub, ?_⟩
  · rw [hlin]
    exact List.cons_ne_nil _ _
  · rw [hlin, hlin']
    exact hsub'

/-! ## Values -/

section Values

variable {k : ValidationConstraint} {node : Node} {id : TypeId} {lineage : List TypeId}
  {attrName v : Value} {x : Violation}

/-- **A constraint whose functions give an answer** for one value. -/
structure ValidationConstraint.AnswersAt (k : ValidationConstraint) (node : Node)
    (attrName v : Value) : Prop where
  check : ∃ reason, k.check node attrName v = .ok reason
  applies : ∀ f ∈ k.applies, ∃ b, f node attrName = .ok b

/-- When a constraint is about an attribute of a type: by its attribute and its pattern, and then as
far as it holds for the node. -/
theorem appliesTo_type :
    k.appliesTo node attrName lineage (some id) =
      if covers k.attrName attrName && selects k.target id lineage k.descendants then
        match k.applies with
        | some f => f node attrName
        | none => .ok true
      else .ok false := by
  rw [ValidationConstraint.appliesTo]
  simp only [pure_bind]
  cases covers k.attrName attrName with
  | false => rfl
  | true => cases selects k.target id lineage k.descendants <;> rfl

/-- The violation of a reason that does not count as false. -/
def ValidationConstraint.violationOf (k : ValidationConstraint) (attrName : Value) :
    Option Value → Option Violation
  | some reason => if reason.isTruthy then some ⟨k.id, reason, attrName⟩ else none
  | none => none

/-- What a constraint says that is about the attribute. -/
theorem violation?_of_applies (h : k.appliesTo node attrName lineage (some id) = .ok true) :
    k.violation? node id lineage attrName v =
      (k.check node attrName v).map (k.violationOf attrName) := by
  rw [ValidationConstraint.violation?, h, ValidationConstraint.validate]
  cases k.check node attrName v with
  | error f => rfl
  | ok reason => cases reason <;> rfl

theorem violation?_of_not_applies (h : k.appliesTo node attrName lineage (some id) = .ok false) :
    k.violation? node id lineage attrName v = .ok none := by
  rw [ValidationConstraint.violation?, h]
  rfl

/-- A constraint whose functions give an answer says something against a value, or nothing. -/
theorem ValidationConstraint.AnswersAt.exists_violation? (h : k.AnswersAt node attrName v)
    (id : TypeId) (lineage : List TypeId) :
    ∃ found, k.violation? node id lineage attrName v = .ok found := by
  have happlies : ∃ b, k.appliesTo node attrName lineage (some id) = .ok b := by
    rw [appliesTo_type]
    split
    · cases hf : k.applies with
      | none => exact ⟨true, rfl⟩
      | some f => exact h.applies f hf
    · exact ⟨false, rfl⟩
  obtain ⟨b, hb⟩ := happlies
  obtain ⟨reason, hcheck⟩ := h.check
  cases b with
  | false => exact ⟨none, violation?_of_not_applies hb⟩
  | true => exact ⟨_, by rw [violation?_of_applies hb, hcheck]; rfl⟩

/-- **What a constraint says against a value it says of descendants**, whatever the nodes are. -/
theorem violation?_special (hk : (Constraint.validation k).OfPredicate)
    (hdesc : k.descendants = true) (hne : lineage ≠ []) {lineage' : List TypeId}
    (hsub : lineage ⊆ lineage') (h : k.violation? node id lineage attrName v = .ok (some x))
    (node' : Node) (id' : TypeId) :
    k.violation? node' id' lineage' attrName v = .ok (some x) := by
  obtain ⟨happlies, p, hcheck⟩ := hk
  have hsame : k.check node' attrName v = k.check node attrName v := by rw [hcheck]
  cases hcov : covers k.attrName attrName && selects k.target id lineage k.descendants with
  | false =>
    rw [violation?_of_not_applies (by rw [appliesTo_type, hcov]; rfl)] at h
    cases h
  | true =>
    obtain ⟨hattr, hsel⟩ := Bool.and_eq_true_iff.1 hcov
    rw [hdesc] at hsel
    have hsel' := selects_mono hne hsub hsel id'
    have hyes : k.appliesTo node attrName lineage (some id) = .ok true := by
      rw [appliesTo_type, hcov, happlies]
      rfl
    have hyes' : k.appliesTo node' attrName lineage' (some id') = .ok true := by
      rw [appliesTo_type, hattr, hdesc, hsel', happlies]
      rfl
    rw [violation?_of_applies hyes', hsame, ← violation?_of_applies hyes, h]

end Values

/-- What comes of elements one by one, when something comes of each of them. -/
theorem exists_mapM {α β : Type} {f : α → Result β} {l : List α} (h : ∀ a ∈ l, ∃ b, f a = .ok b) :
    ∃ bs, l.mapM f = .ok bs ∧ ∀ a ∈ l, ∀ b, f a = .ok b → b ∈ bs := by
  induction l with
  | nil => exact ⟨[], rfl, by simp⟩
  | cons a l ih =>
    obtain ⟨b, hb⟩ := h a List.mem_cons_self
    obtain ⟨bs, hbs, hmem⟩ := ih fun a ha => h a (List.mem_cons_of_mem _ ha)
    refine ⟨b :: bs, by rw [List.mapM_cons, hb, hbs]; rfl, fun a' ha' b' hb' => ?_⟩
    rcases List.mem_cons.1 ha' with rfl | ha'
    · obtain rfl := Except.ok.inj (hb.symm.trans hb')
      exact List.mem_cons_self
    · exact List.mem_cons_of_mem _ (hmem a' ha' b' hb')

/-- The schema has something to say against a value of an attribute that has a name, or nothing. -/
theorem exists_schemaViolation? (s : Snapshot) (id : TypeId) (attr : String) (v : Value) :
    ∃ found, s.schemaViolation? id (.str attr) v = .ok found := by
  rw [Snapshot.schemaViolation?]
  cases s.type? id <;> exact ⟨_, rfl⟩

/-- **All that stands against a value** holds what each constraint says, if all constraints give an
answer. -/
theorem exists_violations {r : Registry} {node : Node} {id : TypeId} {attr : String} {v : Value}
    (hnode : node.target = .ok id) (hon : r.switches.areOn id.family = true)
    (hanswers : ∀ k ∈ r.snapshot.contents.validation, k.AnswersAt node (.str attr) v) :
    ∃ xs, r.violations node (.str attr) v = .ok xs ∧
      ∀ k ∈ r.snapshot.contents.validation, ∀ x,
        k.violation? node id (r.snapshot.lineage id) (.str attr) v = .ok (some x) → x ∈ xs := by
  obtain ⟨schema, hschema⟩ := exists_schemaViolation? r.snapshot id attr v
  obtain ⟨found, hfound, hmem⟩ := exists_mapM fun k hk =>
    (hanswers k hk).exists_violation? id (r.snapshot.lineage id)
  refine ⟨schema.toList ++ found.filterMap fun x => x, ?_, fun k hk x hx => ?_⟩
  · rw [Registry.violations, hnode]
    simp only [bind, Except.bind, hon]
    rw [Snapshot.violations, hschema]
    simp only [bind, Except.bind, hfound]
    rfl
  · have hin := hmem k hk _ hx
    exact List.mem_append_right _ (List.mem_filterMap.2 ⟨some x, hin, rfl⟩)

/-- **What a constraint contributes to the violations of a node**, where checks on its family are
on. -/
structure Registry.Contributes (r : Registry) (k : ValidationConstraint) (node : Node) (id : TypeId)
    (attrName v : Value) (x : Violation) : Prop where
  target : node.target = .ok id
  areOn : r.switches.areOn id.family = true
  found : k.violation? node id (r.snapshot.lineage id) attrName v = .ok (some x)

/-- **Constraints are inherited.** Take a registry that some run has led to, and a constraint in it
that was made of a predicate and is about descendants.

* When the constraint denies a placement, no placement of a descendant under a descendant, with the
  same name, is allowed.
* Whatever the constraint contributes to the violations of a node is among the violations of each
  node of a descendant, with the same reason, where checks on both families are on.

The functions of all constraints that are registered are assumed to give an answer where the
descendants are asked about; they need not do so anywhere else. -/
theorem constraints_are_inherited {r : Registry} (hr : r.Reachable) :
    (∀ k ∈ r.snapshot.contents.placement, k.descendants = true →
      (∃ id predicate arguments params,
        makeConstraint .placement id predicate arguments params = .ok (.placement k)) →
      ∀ parent child name decision,
        Action.outcome (evaluate parent child (givenName name)) r = .ok decision →
        decision.constraint = some k.id →
      ∀ parent' child' d' e', r.snapshot.type? parent' = some d' → parent ∈ d'.lineage →
        r.snapshot.type? child' = some e' → child ∈ e'.lineage →
        (∀ k' ∈ r.snapshot.contents.placement,
          k'.AnswersAt (r.snapshot.placementOf d' child' (givenName name))) →
        ∃ decision', Action.outcome (evaluate parent' child' (givenName name)) r = .ok decision' ∧
          decision'.allowed = false) ∧
    ∀ switches, ∀ k ∈ r.snapshot.contents.validation, k.descendants = true →
      (∃ id predicate arguments params,
        makeConstraint .validation id predicate arguments params = .ok (.validation k)) →
      ∀ node t attr v x,
        ({ r with switches } : Registry).Contributes k node t (.str attr) v x →
      ∀ node' t' d', node'.target = .ok t' → r.snapshot.type? t' = some d' → t ∈ d'.lineage →
        switches.areOn t'.family = true →
        (∀ k' ∈ r.snapshot.contents.validation, k'.AnswersAt node' (.str attr) v) →
        ∃ xs, ({ r with switches } : Registry).violations node' (.str attr) v = .ok xs ∧
          x ∈ xs := by
  have hcoherent := hr.sound.coherent
  refine ⟨?_, ?_⟩
  · intro k hk hdesc hmade parent child name decision hout hid parent' child' d' e' hd' hparent he'
      hchild hanswers
    obtain ⟨id, predicate, arguments, params, hmade⟩ := hmade
    have hof := ensures_makeConstraint _ _ _ _ _ _ hmade
    rw [outcome_evaluate hr] at hout ⊢
    obtain ⟨d, hd, k', hk', hid', hdenies⟩ := exists_denies hout hid
    -- the ids of constraints differ, so it is this one that has denied
    obtain rfl := hr.distinct.eq_of_placement hk' hk hid'
    have hspecial := special_placementOf hcoherent hd hd' hparent he' hchild (givenName name)
    exact not_allowed_of_denies hd' hanswers hk (denies_special hof hdesc hspecial hdenies)
  · intro switches k hk hdesc hmade node t attr v x hx node' t' d' hnode' hd' hin hon hanswers
    obtain ⟨id, predicate, arguments, params, hmade⟩ := hmade
    have hof := ensures_makeConstraint _ _ _ _ _ _ hmade
    obtain ⟨d, hd, hsub⟩ := hcoherent.lineage_subset (Catalog.mem_of_find? hd') hin
    have hlin : r.snapshot.lineage t = d.lineage := by
      rw [Snapshot.lineage, Snapshot.type?, hd]
    have hlin' : r.snapshot.lineage t' = d'.lineage := by
      rw [Snapshot.lineage, hd']
    have hfound := hx.found
    rw [hlin] at hfound
    have hfound' := violation?_special hof hdesc (List.cons_ne_nil _ _) hsub hfound node' t'
    obtain ⟨xs, hxs, hmem⟩ :=
      exists_violations (r := { r with switches }) hnode' hon hanswers
    refine ⟨xs, hxs, hmem k hk x ?_⟩
    rw [← hlin'] at hfound'
    exact hfound'

/-- A constraint that keeps texts out of a type and all of its descendants. -/
def noTexts : PlacementConstraint where
  id := "no-texts"
  description := "texts are kept elsewhere"
  check := (PlacementPredicate.denyChildType [⟨"file", "text"⟩]).check
  parent := ⟨"file", "base"⟩

/-- A constraint that wants a title for every text. -/
def titled : ValidationConstraint where
  id := "titled"
  description := "every text has a title"
  check := fun _ attrName v => do return (← ValidationPredicate.required.check attrName v).map .str
  target := ⟨"file", "text"⟩
  attrName := "title"

theorem makeConstraint_noTexts : makeConstraint .placement "no-texts" "deny_child_type"
    [("types", "file.text"), ("parent", "file.base"),
      ("description", "texts are kept elsewhere")] = .ok (.placement noTexts) := rfl

theorem makeConstraint_titled : makeConstraint .validation "titled" "required"
    [("target", "file.text"), ("attribute", "title"),
      ("description", "every text has a title")] = .ok (.validation titled) := rfl

/-- A run that registers two types, each with a descendant. -/
def familyRun : List Operation :=
  [.register (.id ⟨"file", "base"⟩) [.acceptChildren "file"] .none,
    .register (.id ⟨"file", "folder"⟩) [.inherit (.id ⟨"file", "base"⟩)] .none,
    .register (.id ⟨"file", "text"⟩) [] .none,
    .register (.id ⟨"file", "note"⟩) [.inherit (.id ⟨"file", "text"⟩)] .none,
    .resolveDeferred]

/-- The registry that it leads to. -/
def families : Registry := ({ name := "files" } : Registry).run familyRun

/-- The same registry with both constraints. -/
def guarded : Registry :=
  (families.perform (.addConstraint (.constraint (.placement noTexts)) .none)).perform
    (.addConstraint (.constraint (.validation titled)) .none)

theorem reachable_guarded : guarded.Reachable :=
  ⟨"files", familyRun ++ [.addConstraint (.constraint (.placement noTexts)) .none,
    .addConstraint (.constraint (.validation titled)) .none], rfl⟩

theorem constraints_guarded : guarded.snapshot.contents.placement = [noTexts] ∧
    guarded.snapshot.contents.validation = [titled] := by
  have hidle : families.released = [] := by decide +kernel
  have hsteady : families.Steady := steady_of_reachable ⟨_, _, rfl⟩ rfl hidle
  have hplacement : families.holdings.placement = [] :=
    List.isEmpty_iff.1 (by decide +kernel)
  have hvalidation : families.holdings.validation = [] :=
    List.isEmpty_iff.1 (by decide +kernel)
  obtain ⟨hsteady', hfirst⟩ := perform_addConstraint hsteady (k := .placement noTexts)
    (by decide +kernel)
  obtain ⟨-, hsecond⟩ := perform_addConstraint hsteady' (k := .validation titled)
    (by decide +kernel)
  rw [hfirst] at hsecond
  have hplacement' := congrArg Holdings.placement hsecond
  have hvalidation' := congrArg Holdings.validation hsecond
  simp only [Holdings.addConstraint, hplacement, hvalidation] at hplacement' hvalidation'
  exact ⟨hplacement', hvalidation'⟩

theorem constraints_are_inherited_note :
    (Action.outcome (evaluate ⟨"file", "base"⟩ ⟨"file", "text"⟩ .null) guarded).toOption.map
        (·.constraint) = some (some "no-texts") ∧
      (∃ decision, Action.outcome (evaluate ⟨"file", "folder"⟩ ⟨"file", "note"⟩ .null) guarded =
        .ok decision ∧ decision.allowed = false) ∧
      ∃ xs, guarded.violations (.id ⟨"file", "note"⟩) (.str "title") .null = .ok xs ∧
        ⟨"titled", "title is required", "title"⟩ ∈ xs := by
  obtain ⟨hplacement, hvalidation⟩ := constraints_guarded
  obtain ⟨hplaces, hvalues⟩ := constraints_are_inherited reachable_guarded
  rw [hplacement] at hplaces
  rw [hvalidation] at hvalues
  have hfirst : (Action.outcome (evaluate ⟨"file", "base"⟩ ⟨"file", "text"⟩ .null)
      guarded).toOption.map (·.constraint) = some (some "no-texts") := by decide +kernel
  have hfolder : (guarded.snapshot.type? ⟨"file", "folder"⟩).map (·.lineage) =
      some [⟨"file", "folder"⟩, ⟨"file", "base"⟩] := by decide +kernel
  have hnote : (guarded.snapshot.type? ⟨"file", "note"⟩).map (·.lineage) =
      some [⟨"file", "note"⟩, ⟨"file", "text"⟩] := by decide +kernel
  have htext : guarded.snapshot.lineage ⟨"file", "text"⟩ = [⟨"file", "text"⟩] := by decide +kernel
  obtain ⟨d, hd, hdl⟩ := Option.map_eq_some_iff.1 hfolder
  obtain ⟨e, he, hel⟩ := Option.map_eq_some_iff.1 hnote
  refine ⟨hfirst, ?_, ?_⟩
  · -- the placement of the ancestors is denied by the constraint
    cases hout : Action.outcome (evaluate ⟨"file", "base"⟩ ⟨"file", "text"⟩ .null) guarded with
    | error f =>
      rw [hout] at hfirst
      cases hfirst
    | ok decision =>
      rw [hout] at hfirst
      refine hplaces noTexts List.mem_cons_self rfl ⟨_, _, _, _, makeConstraint_noTexts⟩ _ _ none
        decision hout (Option.some.inj hfirst) _ _ d e hd ?_ he ?_ ?_
      · simp [hdl]
      · simp [hel]
      · intro k hk
        obtain rfl := List.mem_singleton.1 hk
        exact ⟨⟨_, rfl⟩, by rintro f ⟨⟩⟩
  · have hx : ({ guarded with switches := guarded.switches } : Registry).Contributes titled
        (.id ⟨"file", "text"⟩) ⟨"file", "text"⟩ (.str "title") .null
        ⟨"titled", "title is required", "title"⟩ := by
      refine ⟨rfl, by decide +kernel, ?_⟩
      change titled.violation? _ _ (guarded.snapshot.lineage ⟨"file", "text"⟩) _ _ = _
      rw [htext]
      rfl
    refine hvalues guarded.switches titled List.mem_cons_self rfl
      ⟨_, _, _, _, makeConstraint_titled⟩ _ _ _ _ _ hx (.id ⟨"file", "note"⟩) _ e rfl he ?_
      (by decide +kernel) ?_
    · simp [hel]
    · intro k hk
      obtain rfl := List.mem_singleton.1 hk
      exact ⟨⟨_, rfl⟩, by rintro f ⟨⟩⟩

end Taxonomy
